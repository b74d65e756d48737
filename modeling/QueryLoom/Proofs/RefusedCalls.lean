import QueryLoom.Proofs.Slots

/-!
# Calls that fail

A call that fails leaves the registry as it was. Only a document of queries is loaded in part: what
stands in front of the query that is refused stays registered.
-/

namespace QueryLoom

/-- The error that a result is, if it is one. -/
def SqlResult.error? {α : Type} : SqlResult α → Option SqlError
  | .ok _ => none
  | .error e => some e

lemma SqlResult.error?_eq_some {α : Type} {result : SqlResult α} {e : SqlError} :
    result.error? = some e ↔ result = .error e := by
  cases result <;> simp [error?]

namespace Registry

variable {r : Registry} {e : SqlError}

/-! ### Errors of calls -/

/-- The error of a call, if it fails. -/
def Call.error? (r : Registry) : Call → Option SqlError
  | .register id source => ((Edit.register id source).outcome r).1.error?
  | .registerPartial name text => ((Edit.registerPartial name text).outcome r).1.error?
  | .loadMarkdown namespaceName text => ((Edit.loadMarkdown namespaceName text).outcome r).1.error?
  | .loadMapper namespaceName xml => ((Edit.loadMapper namespaceName xml).outcome r).1.error?

/-- All calls succeed, one after the other. -/
def Accepts (r : Registry) : List Call → Prop
  | [] => True
  | call :: calls => call.error? r = none ∧ (call.run r).Accepts calls

/-- The calls that register some sources, one after the other. -/
def callsFor (sources : List (String × Source)) : List Call :=
  sources.map fun (id, source) => .register id source

/-! ### Sources -/

/-- A change fails exactly if it is refused. -/
lemma Change.error?_edit {c : Change} :
    (c.edit.outcome r).1.error? = some e ↔ c.attempt r = .error e := by
  rw [SqlResult.error?_eq_some, outcome_edit]
  cases c.attempt r <;> simp

lemma Change.outcome_edit_of_error {c : Change} (h : (c.edit.outcome r).1.error? = some e) :
    (c.edit.outcome r).2 = r := by
  rw [outcome_edit, error?_edit.mp h]

lemma Call.error?_register {id : String} {source : Source} :
    (Call.register id source).error? r = some e ↔
      (Change.source id source).attempt r = .error e :=
  Change.error?_edit (c := .source id source)

lemma Call.error?_register_of_ok {next : Registry} {id : String} {source : Source}
    (h : (Change.source id source).attempt r = .ok next) :
    (Call.register id source).error? r = none := by
  have houtcome := Change.outcome_edit r (.source id source)
  rw [h, Change.edit] at houtcome
  rw [error?, houtcome]
  rfl

lemma Call.run_register_of_ok {next : Registry} {id : String} {source : Source}
    (h : (Change.source id source).attempt r = .ok next) :
    (Call.register id source).run r = next := by
  have houtcome := Change.outcome_edit r (.source id source)
  rw [h, Change.edit] at houtcome
  rw [run, Edit.fst_apply, houtcome]

/-! ### Documents -/

/-- Where sources are registered up to an error, one of them is refused after all in front of it
were registered. -/
lemma outcome_registerAll_of_error {sources : List (String × Source)}
    (h : ((Edit.registerAll sources).outcome r).1 = .error e) :
    ∃ k id source, sources[k]? = some (id, source) ∧ r.Accepts (callsFor (sources.take k)) ∧
      ((Edit.registerAll sources).outcome r).2 = r.runAll (callsFor (sources.take k)) ∧
      (Change.source id source).attempt (r.runAll (callsFor (sources.take k))) = .error e := by
  induction sources generalizing r with
  | nil => cases h
  | cons entry sources ih =>
    obtain ⟨id, source⟩ := entry
    rw [outcome_registerAll_cons] at h ⊢
    cases hadd : (Change.source id source).attempt r with
    | error e' =>
      rw [hadd] at h
      cases h
      exact ⟨0, id, source, rfl, trivial, rfl, hadd⟩
    | ok next =>
      have hnext : (Call.register id source).run r = next := Call.run_register_of_ok hadd
      have hrest : ((Edit.registerAll sources).outcome next).1 = .error e := by
        rw [hadd] at h
        cases hresult : ((Edit.registerAll sources).outcome next).1 with
        | ok n => simp [hresult, Except.map] at h
        | error e' => simpa [hresult, Except.map] using h
      obtain ⟨k, id', source', hk, haccepts, hrun, hrefused⟩ := ih hrest
      have hfirst : r.runAll (callsFor (((id, source) :: sources).take (k + 1))) =
          next.runAll (callsFor (sources.take k)) := by
        rw [List.take_succ_cons, ← hnext]
        rfl
      refine ⟨k + 1, id', source', hk, ⟨Call.error?_register_of_ok hadd, ?_⟩, ?_, ?_⟩
      · rw [hnext]
        exact haccepts
      · rw [hfirst]
        exact hrun
      · rw [hfirst]
        exact hrefused

/-- Trees are never refused. -/
lemma outcome_registerAll_trees (r : Registry) {sources : List (String × Source)}
    (h : ∀ entry ∈ sources, ∃ nodes, entry.2 = .tree nodes) :
    ((Edit.registerAll sources).outcome r).1 ≠ .error e := by
  intro herror
  obtain ⟨k, id, source, hk, -, -, hrefused⟩ := outcome_registerAll_of_error herror
  obtain ⟨nodes, hnodes⟩ := h (id, source) (List.mem_of_getElem? hk)
  cases hnodes
  rw [Change.attempt_source] at hrefused
  cases hrefused

/-- A mapper is refused before any of its blocks is registered. -/
lemma run_loadMapper_of_error {namespaceName xml : String}
    (h : (Call.loadMapper namespaceName xml).error? r = some e) :
    (Call.loadMapper namespaceName xml).run r = r := by
  rw [Call.error?, SqlResult.error?_eq_some, Edit.loadMapper, Edit.outcome_bind,
    Edit.outcome_lift] at h
  rw [Call.run_eq, Call.changes]
  cases hparse : Markup.Mapper.parse xml with
  | error e => rfl
  | ok mapper =>
    rw [hparse] at h
    dsimp only [Call.mapperChanges] at h ⊢
    generalize (if namespaceName.isEmpty then mapper.namespaceName?.getD "" else namespaceName) =
      space at h ⊢
    cases hspace : space.isEmpty with
    | true => rfl
    | false =>
      simp only [hspace, Bool.false_eq_true, if_false] at h
      refine absurd h (outcome_registerAll_trees r fun entry hentry => ?_)
      obtain ⟨block, -, rfl⟩ := List.mem_map.mp hentry
      exact ⟨block.body, rfl⟩

/-- A call that fails leaves the registry as it was. Only a document of queries is loaded in part:
all queries in front of the one that is refused are registered, without an error, and no more. -/
theorem run_of_error (r : Registry) (call : Call) (e : SqlError) (h : call.error? r = some e) :
    match call with
    | .loadMarkdown namespaceName text =>
      ∃ k id sql, (queriesOf text)[k]? = some (id, sql) ∧
        let before := ((queriesOf text).take k).map fun (id, sql) =>
          Call.register (namespaceName ++ "." ++ id) (.text sql)
        r.Accepts before ∧ call.run r = r.runAll before ∧
          (Call.register (namespaceName ++ "." ++ id) (.text sql)).error? (call.run r) = some e
    | _ => call.run r = r := by
  cases call with
  | register id source => exact Change.outcome_edit_of_error (c := .source id source) h
  | registerPartial name text => exact Change.outcome_edit_of_error (c := .insertable name text) h
  | loadMapper namespaceName xml => exact run_loadMapper_of_error h
  | loadMarkdown namespaceName text =>
    rw [Call.error?, SqlResult.error?_eq_some] at h
    obtain ⟨k, _, _, hk, haccepts, hrun, hrefused⟩ := outcome_registerAll_of_error h
    rw [List.getElem?_map, Option.map_eq_some_iff] at hk
    obtain ⟨⟨id, sql⟩, hk, hsource⟩ := hk
    cases hsource
    rw [callsFor, ← List.map_take, List.map_map] at haccepts hrun hrefused
    refine ⟨k, id, sql, hk, haccepts, hrun, Call.error?_register.mpr ?_⟩
    rw [Call.run, Edit.fst_apply, Edit.loadMarkdown, hrun]
    exact hrefused

/-- A text that another one inserts. -/
def insertedColumns : List Call :=
  [.registerPartial "t.cols" "id", .register "t.list" (.text "\x7b\x7b> t.cols\x7d\x7d")]

/-- The text in place of the inserted one that would insert itself through the other. -/
def backToList : Call := .registerPartial "t.cols" "\x7b\x7b> t.list\x7d\x7d"

lemma error?_backToList : backToList.error? (runAll (empty []) insertedColumns) =
    some (.parse [] (.includesItself "t.cols")) := by
  cbv

/-- A document whose second query inserts itself. -/
def selfInserting : String := "one\n===\n1\ntwo\n===\n\x7b\x7b> t.two\x7d\x7d"

lemma queriesOf_selfInserting :
    queriesOf selfInserting = [("one", "1"), ("two", "\x7b\x7b> t.two\x7d\x7d")] := by
  decide +kernel

lemma error?_selfInserting : (Call.loadMarkdown "t" selfInserting).error? (empty []) =
    some (.parse [] (.includesItself "t.two")) := by
  rw [Call.error?, Edit.loadMarkdown, queriesOf_selfInserting]
  cbv

/-- The inserted text is not replaced, and of the document the first query stays. -/
theorem run_of_error_cycle :
    let r := runAll (empty []) insertedColumns
    backToList.run r = r ∧
      (Call.loadMarkdown "t" selfInserting).run (empty []) =
        runAll (empty []) [.register "t.one" (.text "1")] := by
  intro r
  constructor
  · exact run_of_error r backToList _ error?_backToList
  · obtain ⟨k, id, sql, hk, -, hrun, hrefused⟩ :=
      run_of_error (empty []) (.loadMarkdown "t" selfInserting) _ error?_selfInserting
    rw [hrun] at hrefused ⊢
    rw [queriesOf_selfInserting] at hk hrefused ⊢
    obtain _ | _ | k := k
    · cases hk
      have hregistered : (Call.register "t.one" (.text "1")).error? (empty []) = none := by cbv
      simp [runAll, hregistered] at hrefused
    · rfl
    · cases hk

end Registry

end QueryLoom

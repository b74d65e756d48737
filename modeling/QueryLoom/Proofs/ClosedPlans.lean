import QueryLoom.Batch.Select
import QueryLoom.Proofs.AddressedRows
import QueryLoom.Proofs.InsertedRows
import QueryLoom.Proofs.QueriedRows

/-!
# Plans with temporary tables

A temporary table is dropped, created and filled, used by one statement beside the table of the
entity, and dropped again. Of the statements of a select this one gives the rows.
-/

namespace QueryLoom

open Dml

/-! ### Statements around a temporary table -/

namespace Dml

/-- The temporary table whose rows are joined. -/
def Scope.sources : Scope → List (List IdentPart)
  | .groups _ => []
  | .joined temp _ => [[temp]]

/-- The tables that a selection takes its row from, or that it looks into for another row. -/
def Branch.sources (b : Branch) : List (List IdentPart) :=
  (b.source?.map fun p => [p]).toList ++ (b.unless?.map Prod.fst).toList

/-- The tables that a statement reads besides the one it changes. -/
def Command.sources : Command → List (List IdentPart)
  | .change _ _ scope => scope.sources
  | .query queries => queries.flatMap fun q => q.table :: q.scope.sources
  | .insertSelected _ _ branches => branches.flatMap Branch.sources
  | _ => []

/-- The table that a statement changes. -/
def Command.changed : Command → List (List IdentPart)
  | .change _ table _ | .insert _ table _ _ _ | .insertSelected table _ _ => [table]
  | .create temp | .drop temp => [[temp]]
  | .query _ => []

/-- The tables that a statement reads or changes. -/
def Command.tables (c : Command) : List (List IdentPart) := c.changed ++ c.sources

/-- A temporary table is dropped, created, filled, used, and dropped. -/
def bracket (temp : String) (fills : List Command) (use : Command) : List Command :=
  .drop (.plain temp) :: .create (.plain temp) :: (fills ++ [use, .drop (.plain temp)])

/-- Statements are read as trees. -/
def AreRead (d : Dialect) (statements : List Statement) (cs : List Command) : Prop :=
  List.Forall₂ (fun s c => readStatement d s = some c) statements cs

lemma AreRead.answersAt {d : Dialect} {statements : List Statement} {before after : List Command}
    {use : Command} (h : AreRead d statements (before ++ use :: after)) :
    ∃ s, Execution.AnswersAt statements before.length s ∧ readStatement d s = some use := by
  have hbefore := List.forall₂_take_append _ _ _ h
  obtain ⟨s, rest, hs, -, hdrop⟩ :=
    List.forall₂_cons_right_iff.mp (List.forall₂_drop_append _ _ _ h)
  have hanswers := Execution.answersAt_append (statements.take before.length) s rest
  rw [← hdrop, List.take_append_drop, hbefore.length_eq] at hanswers
  exact ⟨s, hanswers, hs⟩

/-- The statements around a temporary table with a plain name write some rows into it, each once
and in a number of pieces. Only the statement after them reads it, and only this one reads or
changes the table of an entity. -/
structure Bracket (table : List IdentPart) (temp : String) (rows : List Tuple) (pieces : Nat)
    (fills : List Command) (use : Command) : Prop where
  plain : Ident.isPlain temp.toList = true
  pieces : fills.length = pieces
  fill : ∀ fill ∈ fills, ∃ columns cells, fill = .insert false [.plain temp] columns cells none
  written : fills.flatMap Command.written = rows
  reads : (bracket temp fills use).filter (fun c => [.plain temp] ∈ c.sources) = [use]
  touches : (bracket temp fills use).filter (fun c => table ∈ c.tables) = [use]

lemma filter_bracket {p : Command → Bool} {temp : String} {fills : List Command} {use : Command}
    (hdrop : p (.drop (.plain temp)) = false) (hcreate : p (.create (.plain temp)) = false)
    (hfills : ∀ fill ∈ fills, p fill = false) (huse : p use = true) :
    (bracket temp fills use).filter p = [use] := by
  have hnone : fills.filter p = [] := List.filter_eq_nil_iff.mpr (by simpa using hfills)
  simp [bracket, hdrop, hcreate, hnone, huse]

lemma Bracket.of_use {table : List IdentPart} {temp : String}
    (hplain : Ident.isPlain temp.toList = true) (hne : [.plain temp] ≠ table)
    {fills : List Command}
    (hfill : ∀ fill ∈ fills, ∃ columns cells, fill = .insert false [.plain temp] columns cells none)
    {use : Command} (hsource : [.plain temp] ∈ use.sources) (htable : table ∈ use.tables) :
    Bracket table temp (fills.flatMap Command.written) fills.length fills use where
  plain := hplain
  pieces := rfl
  fill := hfill
  written := rfl
  reads := by
    refine filter_bracket (by simp [Command.sources]) (by simp [Command.sources]) ?_
      (by simpa using hsource)
    intro fill hmem
    obtain ⟨columns, cells, rfl⟩ := hfill fill hmem
    simp [Command.sources]
  touches := by
    have htemp : table ∉ [[.plain temp]] := by simpa using hne.symm
    refine filter_bracket (by simpa [Command.tables, Command.changed, Command.sources] using htemp)
      (by simpa [Command.tables, Command.changed, Command.sources] using htemp) ?_
      (by simpa using htable)
    intro fill hmem
    obtain ⟨columns, cells, rfl⟩ := hfill fill hmem
    simpa [Command.tables, Command.changed, Command.sources] using htemp

end Dml

namespace Batch

variable {d : Dialect} {e : Entity} {policy : SkipPolicy} {records : List Record}

lemma tempName_injective (e : Entity) : Function.Injective (tempName e) := by
  intro s t h
  simpa [tempName, String.append_assoc] using h

/-! ### Inserts -/

/-- Statements that stage the rows of a chunk in one piece and insert them into the table. -/
def InsertsStaged (d : Dialect) (e : Entity) (policy : SkipPolicy) (suffixes : Suffixes)
    (chunk : List Record × Nat) (cs : List Command) : Prop :=
  ∃ rows fills use, cs = bracket (tempName e (suffixes chunk.2)) fills use ∧
    List.Forall₂ (Writes d e policy) chunk.1 rows ∧
    Bracket e.table.parts (tempName e (suffixes chunk.2)) rows 1 fills use

lemma insertsStaged_insertChunk (he : Accepted e) {checked : List Field}
    (hready : Ready d e .tempTable checked) {suffixes : Suffixes} {index : Nat}
    (hsuffix : IsPlainSuffix (suffixes index)) (hne : records ≠ []) {steps : List Step}
    (h : insertChunk e .tempTable checked policy (tempName e (suffixes index)) records
      = .ok steps) :
    ∃ cs, List.Forall₂ (Reads d) steps cs ∧
      InsertsStaged d e policy suffixes (records, index) cs := by
  obtain ⟨hcolumns, checks, -, rfl⟩ := insertChunk_ok h
  have hfields : ∀ f ∈ insertedFields e policy records, f ∈ e.fields :=
    fun f hf => List.mem_of_mem_filter hf
  have hcells (row : List Cell)
      (hmem : row ∈ records.map (insertedRow policy (insertedFields e policy records))) :
      row ≠ [] := by
    obtain ⟨r, -, rfl⟩ := List.mem_map.mp hmem
    simpa [insertedRow] using hcolumns
  have htemp := isPlain_tempName e hsuffix
  have hread := @reads_insertSteps d e he .tempTable checked hready _ hcolumns hfields _ htemp
    (records.map (insertedRow policy (insertedFields e policy records))) (by simpa using hne)
    hcells checks fun hmode => by cases hmode
  have hbracket := @Bracket.of_use e.table.parts _ htemp (tempName_ne_table he.legible _)
    [.insert false [.plain (tempName e (suffixes index))]
      ((insertedFields e policy records).map (·.part))
      (records.map (insertedRow policy (insertedFields e policy records))) none]
    (by simp)
    (.insertSelected e.table.parts ((insertedFields e policy records).map (·.part))
      [copyBranch (insertedFields e policy records) (tempName e (suffixes index))])
    (by simp [Command.sources, Branch.sources, copyBranch])
    (by simp [Command.tables, Command.changed])
  rw [List.flatMap_singleton, Command.written, List.map_map] at hbracket
  exact ⟨_, hread, chunkTuples e policy records, _, _, by rfl, writes_chunkTuples he, hbracket⟩

/-- Each chunk has a group of statements with a temporary table of its own. -/
lemma insertsStaged_insertChunks (he : Accepted e) {checked : List Field}
    (hready : Ready d e .tempTable checked) {suffixes : Suffixes}
    (hsuffixes : ∀ index, IsPlainSuffix (suffixes index)) {chunks : List (List Record)}
    (hne : ∀ chunk ∈ chunks, chunk ≠ []) {index : Nat} {steps : List Step}
    (h : insertChunks e .tempTable checked policy suffixes index chunks = .ok steps) :
    ∃ groups : List (List Command), List.Forall₂ (Reads d) steps groups.flatten ∧
      List.Forall₂ (InsertsStaged d e policy suffixes) (chunks.zipIdx index) groups := by
  induction chunks generalizing index steps with
  | nil =>
    cases h
    exact ⟨[], .nil, .nil⟩
  | cons chunk rest ih =>
    rw [insertChunks] at h
    obtain ⟨first, hfirst, h⟩ := SqlResult.bind_eq_ok.mp h
    obtain ⟨others, hothers, h⟩ := SqlResult.bind_eq_ok.mp h
    obtain rfl := SqlResult.pure_eq_ok.mp h
    obtain ⟨cs, hread, hstaged⟩ := insertsStaged_insertChunk he hready (hsuffixes index)
      (hne chunk List.mem_cons_self) hfirst
    obtain ⟨groups, hreads, hgroups⟩ :=
      ih (fun c hc => hne c (List.mem_cons_of_mem chunk hc)) hothers
    exact ⟨cs :: groups, List.rel_append hread hreads, .cons hstaged hgroups⟩

/-! ### Deletes and selects -/

/-- The row that stages some conditions. -/
def conditionRow (ms : List Match) : Tuple :=
  ⟨ms.map (·.field.part), ms.map fun m => .value m.value⟩

/-- Staged records and a step that joins them are statements around the temporary table. -/
lemma bracket_of_stage (he : Accepted e) {fields : List Field} (hne : fields ≠ [])
    (hfields : ∀ f ∈ fields, f ∈ e.fields) {groups : List (List Match)}
    (hgroups : records.map (matchesOf fields) = groups) {suffix : String}
    (hsuffix : IsPlainSuffix suffix) {size : Nat} (hsize : 0 < size) {staged : List Step}
    (hstage : stage (tempName e suffix) fields records size = .ok staged) {use : Step} {c : Command}
    (huse : Reads d use c) (hsource : [.plain (tempName e suffix)] ∈ c.sources)
    (htable : e.table.parts ∈ c.tables) :
    ∃ fills, List.Forall₂ (Reads d) (staged ++ [use, .dropTemp (tempName e suffix)])
        (bracket (tempName e suffix) fills c) ∧
      staged.length = fills.length + 2 ∧
      Bracket e.table.parts (tempName e suffix) (groups.map conditionRow)
        ((groups.length + size - 1) / size) fills c := by
  have htemp := isPlain_tempName e hsuffix
  have hlegible : ∀ f ∈ fields, Legible f.part := fun f hf => he.legible.fields f (hfields f hf)
  have hdrop : Reads d (.dropTemp (tempName e suffix)) (.drop (.plain (tempName e suffix))) :=
    (readsAs_dropTemp htemp).readWith (by decide)
  have hstaged := reads_stage (d := d) htemp hne hlegible hstage
  have hfill : ∀ fill ∈ (chunks size records).map (fillCommand (tempName e suffix) fields),
      ∃ columns cells, fill = .insert false [.plain (tempName e suffix)] columns cells none := by
    intro fill hfill
    obtain ⟨chunk, -, rfl⟩ := List.mem_map.mp hfill
    exact ⟨_, _, rfl⟩
  have hbracket := Bracket.of_use htemp (tempName_ne_table he.legible suffix) hfill hsource htable
  rw [written_fillCommands, flatten_chunks, hgroups, List.length_map, length_chunks hsize,
    ← List.length_map (matchesOf fields), hgroups] at hbracket
  refine ⟨_, List.rel_append hstaged (.cons huse (.cons hdrop .nil)), ?_, hbracket⟩
  simpa [stageCommands] using hstaged.length_eq

lemma maxDeal_pos {α : Type} {config : Config} {plan : Unit → SqlResult α} {a : α}
    (h : config.validate >>= plan = .ok a) : 0 < config.maxDeal := by
  obtain ⟨_, hvalidate, -⟩ := SqlResult.bind_eq_ok.mp h
  exact Nat.pos_of_ne_zero (validate_eq_ok.mp hvalidate)

/-- Statements that stage groups of conditions, in as many pieces as there are chunks of them. -/
def StagesConditions (config : Config) (e : Entity) (temp : String) (groups : List (List Match)) :
    List Command → Command → Prop :=
  Bracket e.table.parts temp (groups.map conditionRow)
    ((groups.length + config.maxDeal - 1) / config.maxDeal)

/-- A staged delete of records has statements around one temporary table, unless there are none. -/
lemma deletePlan_staged (he : Accepted e) {target : Target} (htarget : isRaw target = false)
    {force : Bool} {config : Config} {suffixes : Suffixes} (hsuffix : IsPlainSuffix (suffixes 0))
    {steps : List Step}
    (h : deletePlan e target .tempTable force config suffixes = .ok steps) :
    ∃ records, targetRecords e target = .ok records ∧ ((records = [] ∧ steps = []) ∨
      ∃ fills action scope,
        List.Forall₂ (Reads d) steps
          (bracket (tempName e (suffixes 0)) fills (.change action e.table.parts scope)) ∧
        StagesConditions config e (tempName e (suffixes 0))
          (records.map fun r => groupOf e fun f => r.get? f.name) fills
          (.change action e.table.parts scope)) := by
  have hsize : 0 < config.maxDeal := maxDeal_pos h
  obtain ⟨records, hrecords, hsteps⟩ := deletePlan_ok htarget h
  refine ⟨records, hrecords, hsteps.imp_right ?_⟩
  rintro ⟨first, others, rfl, hdelete⟩
  obtain ⟨fields, hfields, hdelete⟩ := SqlResult.bind_eq_ok.mp hdelete
  obtain ⟨⟨-, hne⟩, rfl⟩ := predicateFields_eq_ok.mp hfields
  obtain ⟨staged, hstage, hdelete⟩ := SqlResult.bind_eq_ok.mp hdelete
  obtain rfl := SqlResult.pure_eq_ok.mp hdelete
  have hfields : ∀ f ∈ recordFields e first, f ∈ e.fields := fun f hf => List.mem_of_mem_filter hf
  have huse := (readsAs_deleteStaged (d := d) he.legible (legible_markOf? he.legible force) hne
    (fun f hf => he.legible.fields f (hfields f hf)) (isPlain_tempName e hsuffix)).readWith
      (by decide)
  obtain ⟨fills, hread, -, hbracket⟩ := bracket_of_stage he hne hfields
    (map_matchesOf_given he (stage_ok hstage).1) hsuffix hsize hstage huse
    (by simp [Command.sources, Scope.sources]) (by simp [Command.tables, Command.changed])
  exact ⟨fills, _, _, hread, hbracket⟩

/-- A staged select has statements around one temporary table, of which the one in between gives
the rows. -/
lemma selectPlan_staged (he : Accepted e) {target : Target} (htarget : isRaw target = false)
    {count : Bool} {names? : Option (List String)} {config : Config} {suffixes : Suffixes}
    (hsuffix : IsPlainSuffix (suffixes 0)) {plan : SelectPlan}
    (h : selectPlan e target .tempTable count names? config suffixes = .ok plan) :
    ∃ records, targetRecords e target = .ok records ∧ ∃ fills queries,
      List.Forall₂ (Reads d) plan.steps
        (bracket (tempName e (suffixes 0)) fills (.query queries)) ∧
      plan.queryStep = fills.length + 2 ∧
      StagesConditions config e (tempName e (suffixes 0))
        (records.map fun r => groupOf e (changedValue? config.skip r)) fills
        (.query queries) := by
  have hsize : 0 < config.maxDeal := maxDeal_pos h
  obtain ⟨selection, records, first, others, hrecords, hselection, hne, hgroups, h⟩ :=
    selectPlan_ok he.legible htarget h
  obtain ⟨staged, hstage, h⟩ := SqlResult.bind_eq_ok.mp h
  obtain rfl := SqlResult.pure_eq_ok.mp h
  have hgroup : ∀ ms ∈ first :: others, ∃ value?, ms = groupOf e value? ∧ ms ≠ [] := by
    intro ms hms
    rw [← hgroups] at hms
    obtain ⟨r, hr, rfl⟩ := List.mem_map.mp hms
    exact ⟨_, rfl, hne r hr⟩
  obtain ⟨value?, rfl, hfirst⟩ := hgroup first List.mem_cons_self
  have hfields : ∀ f ∈ (groupOf e value?).map (·.field), f ∈ e.fields := by
    rw [map_field_groupOf]
    exact fun f hf => List.mem_of_mem_filter hf
  have hstaged := map_matchesOf_recordOf he
    (fun ms hms => (hgroup ms hms).imp fun _ h => h.1)
    (List.forall_mem_map.mp (stage_ok hstage).1)
  have huse := (readsAs_selectStaged (d := d) he.legible hselection (by simpa using hfirst)
    (fun f hf => he.legible.fields f (hfields f hf)) (isPlain_tempName e hsuffix)).readWith
      (by decide)
  obtain ⟨fills, hread, hlength, hbracket⟩ := bracket_of_stage he (by simpa using hfirst) hfields
    hstaged hsuffix hsize hstage huse (by simp [Command.sources, Scope.sources])
    (by simp [Command.tables, Command.sources])
  rw [← hgroups] at hbracket
  exact ⟨records, hrecords, fills, _, hread, hlength, hbracket⟩

lemma select_eq_ok {target : Target} {mode : MatchMode} {count : Bool}
    {names? : Option (List String)} {config : Config} {suffixes : Suffixes}
    {statements : List Statement} {position : Nat}
    (h : (select e target mode count names? config suffixes).value = .ok (statements, position)) :
    ∃ plan, selectPlan e target mode count names? config suffixes = .ok plan ∧
      statements = plan.steps.map (Step.build config.dialect) ∧ position = plan.queryStep := by
  obtain ⟨plan, hplan, rfl⟩ := select_ok h
  rw [select, hplan] at h
  exact ⟨plan, hplan, rfl, (Prod.mk.inj (Except.ok.inj h)).2.symm⟩

/-! ### Predicates -/

/-- A delete by a predicate has one statement, which does not depend on the mode. -/
lemma delete_raw {sql : String} {params : Json} {mode : MatchMode} {force : Bool} {config : Config}
    {suffixes : Suffixes} {statements : List Statement}
    (h : (delete e (.raw sql params) mode force config suffixes).value = .ok statements) :
    (∃ s, statements = [s]) ∧
      (delete e (.raw sql params) .common force config suffixes).value = .ok statements := by
  refine ⟨?_, h⟩
  obtain ⟨steps, hplan, rfl⟩ := delete_ok h
  obtain ⟨_, -, hplan⟩ := SqlResult.bind_eq_ok.mp hplan
  dsimp only at hplan
  split_ifs at hplan
  · exact absurd hplan SqlResult.throw_bind_ne_ok
  · obtain ⟨predicate, -, hplan⟩ := SqlResult.bind_eq_ok.mp hplan
    obtain rfl := SqlResult.pure_eq_ok.mp hplan
    exact ⟨_, rfl⟩

/-- A select by a predicate has one statement, which does not depend on the mode. -/
lemma select_raw {sql : String} {params : Json} {mode : MatchMode} {count : Bool}
    {names? : Option (List String)} {config : Config} {suffixes : Suffixes}
    {statements : List Statement} {position : Nat}
    (h : (select e (.raw sql params) mode count names? config suffixes).value
      = .ok (statements, position)) :
    (∃ s, statements = [s] ∧ Execution.AnswersAt statements position s) ∧
      (select e (.raw sql params) .common count names? config suffixes).value
        = .ok (statements, position) := by
  refine ⟨?_, h⟩
  obtain ⟨plan, hplan, rfl, rfl⟩ := select_eq_ok h
  obtain ⟨_, -, hplan⟩ := SqlResult.bind_eq_ok.mp hplan
  dsimp only at hplan
  have hsingle : ∃ step, plan = ⟨[step], 0⟩ := by
    split at hplan
    all_goals
      obtain ⟨selection, -, hplan⟩ := SqlResult.bind_eq_ok.mp hplan
      split at hplan
      · exact absurd hplan SqlResult.throw_bind_ne_ok
      · obtain ⟨predicate, -, hplan⟩ := SqlResult.bind_eq_ok.mp hplan
        exact ⟨_, (SqlResult.pure_eq_ok.mp hplan).symm⟩
  obtain ⟨step, rfl⟩ := hsingle
  exact ⟨_, rfl, Execution.answersAt_append [] _ []⟩

/-! ### All plans -/

/-- Inserts, deletes and selects that use temporary tables have statements around each of them. An
insert has a table for every chunk of records, filled in one piece. A delete or a select of records
has one table, filled in as many pieces as there are chunks of records; a predicate has no records,
and it is matched by a single statement. The statement of a select that reads the table gives the
rows: where nothing fails, all others are run in order. -/
theorem staged_plans_closed {decl : EntityDecl} (hdecl : decl.build = .ok e) (config : Config)
    {suffixes : Suffixes} (hsuffixes : ∀ index, IsPlainSuffix (suffixes index))
    (hdistinct : Function.Injective suffixes) :
    (Function.Injective fun index => tempName e (suffixes index)) ∧
    (∀ records existence? statements,
      (insert e records .tempTable existence? config suffixes).value = .ok statements →
      ∃ groups : List (List Command), AreRead config.dialect statements groups.flatten ∧
        groups.length = (records.length + config.maxDeal - 1) / config.maxDeal ∧
        List.Forall₂ (InsertsStaged config.dialect e config.skip suffixes)
          (chunks config.maxDeal records).zipIdx groups) ∧
    (∀ target force statements, isRaw target = false →
      (delete e target .tempTable force config suffixes).value = .ok statements →
      ∃ records, targetRecords e target = .ok records ∧ ((records = [] ∧ statements = []) ∨
        ∃ fills action scope,
          AreRead config.dialect statements
            (bracket (tempName e (suffixes 0)) fills (.change action e.table.parts scope)) ∧
          StagesConditions config e (tempName e (suffixes 0))
            (records.map fun r => groupOf e fun f => r.get? f.name) fills
            (.change action e.table.parts scope))) ∧
    (∀ target count names? statements position, isRaw target = false →
      (select e target .tempTable count names? config suffixes).value
        = .ok (statements, position) →
      ∃ records, targetRecords e target = .ok records ∧ ∃ fills queries s,
        AreRead config.dialect statements
          (bracket (tempName e (suffixes 0)) fills (.query queries)) ∧
        StagesConditions config e (tempName e (suffixes 0))
          (records.map fun r => groupOf e (changedValue? config.skip r)) fills
          (.query queries) ∧
        position = fills.length + 2 ∧ Execution.AnswersAt statements position s ∧
        readStatement config.dialect s = some (.query queries)) ∧
    (∀ sql params mode,
      (∀ force statements,
        (delete e (.raw sql params) mode force config suffixes).value = .ok statements →
        (∃ s, statements = [s]) ∧
          (delete e (.raw sql params) .common force config suffixes).value = .ok statements) ∧
      ∀ count names? statements position,
        (select e (.raw sql params) mode count names? config suffixes).value
          = .ok (statements, position) →
        (∃ s, statements = [s] ∧ Execution.AnswersAt statements position s) ∧
          (select e (.raw sql params) .common count names? config suffixes).value
            = .ok (statements, position)) := by
  have he := accepted_of_build hdecl
  refine ⟨(tempName_injective e).comp hdistinct, fun records existence? statements h => ?_,
    fun target force statements htarget h => ?_,
    fun target count names? statements position htarget h => ?_,
    fun sql params mode => ⟨fun force statements => delete_raw,
      fun count names? statements position => select_raw⟩⟩
  · obtain ⟨steps, hplan, rfl⟩ := insert_ok h
    have hsize : 0 < config.maxDeal := maxDeal_pos hplan
    rcases insertPlan_ok hplan with ⟨rfl, rfl⟩ | ⟨checked, hready, hchunks⟩
    · refine ⟨[], .nil, ?_, by simp⟩
      rw [List.length_nil, List.length_nil, Nat.div_eq_of_lt (by omega)]
    · obtain ⟨groups, hread, hgroups⟩ := insertsStaged_insertChunks he hready hsuffixes
        (fun chunk hchunk => ne_nil_of_mem_chunks hchunk) hchunks
      refine ⟨groups, List.forall₂_map_left_iff.mpr hread, ?_, hgroups⟩
      rw [← hgroups.length_eq, List.length_zipIdx, length_chunks hsize]
  · obtain ⟨steps, hplan, rfl⟩ := delete_ok h
    obtain ⟨records, hrecords, hsteps⟩ :=
      deletePlan_staged (d := config.dialect) he htarget (hsuffixes 0) hplan
    refine ⟨records, hrecords, hsteps.imp (fun hnone => ⟨hnone.1, by rw [hnone.2]; rfl⟩) ?_⟩
    rintro ⟨fills, action, scope, hread, hstages⟩
    exact ⟨fills, action, scope, List.forall₂_map_left_iff.mpr hread, hstages⟩
  · obtain ⟨plan, hplan, rfl, rfl⟩ := select_eq_ok h
    obtain ⟨records, hrecords, fills, queries, hread, hposition, hstages⟩ :=
      selectPlan_staged (d := config.dialect) he htarget (hsuffixes 0) hplan
    have hstatements : AreRead config.dialect (plan.steps.map (Step.build config.dialect))
        (bracket (tempName e (suffixes 0)) fills (.query queries)) :=
      List.forall₂_map_left_iff.mpr hread
    obtain ⟨s, hanswers, hs⟩ :=
      @AreRead.answersAt _ _ (.drop (.plain _) :: .create (.plain _) :: fills) _ _ hstatements
    rw [hposition]
    exact ⟨records, hrecords, fills, queries, s, hstatements, hstages, rfl, hanswers, hs⟩

/-- Suffixes of different lengths. -/
def tally (index : Nat) : String := String.ofList (List.replicate index 'x')

/-- Two new lines are staged one by one, each in a table of its own; of six statements that select
two lines by a table, the fifth one gives the rows. -/
theorem staged_plans_of_order_lines :
    orderLineDecl.build = .ok orderLine ∧ (∀ index, IsPlainSuffix (tally index)) ∧
      Function.Injective tally ∧ ∃ inserted deleted selected position,
        (insert orderLine newLines .tempTable none singly tally).value = .ok inserted ∧
        (delete orderLine (.records lineConditions) .tempTable true singly tally).value
          = .ok deleted ∧
        (select orderLine (.records lineConditions) .tempTable true none singly tally).value
          = .ok (selected, position) ∧
        (∃ first second, AreRead .mysql inserted (first ++ second) ∧
          InsertsStaged .mysql orderLine singly.skip tally ([newLines[0]], 0) first ∧
          InsertsStaged .mysql orderLine singly.skip tally ([newLines[1]], 1) second) ∧
        (∃ first second use, AreRead .mysql deleted (bracket "order_line_" [first, second] use)) ∧
        (∃ first second use, AreRead .mysql selected (bracket "order_line_" [first, second] use)) ∧
        position = 4 ∧ ∃ s, Execution.AnswersAt selected position s := by
  have hsuffixes (index : Nat) : IsPlainSuffix (tally index) := by
    intro c hc
    rw [tally, String.toList_ofList] at hc
    rw [List.eq_of_mem_replicate hc]
    decide
  have hdistinct : Function.Injective tally := by
    intro i j h
    simpa [tally] using congrArg (fun s : String => s.toList.length) h
  have hchunks : chunks singly.maxDeal newLines = [[newLines[0]], [newLines[1]]] := by
    simp [chunks, newLines, singly]
  have hplan : ∃ steps, insertPlan orderLine newLines .tempTable none singly tally = .ok steps := by
    unfold insertPlan
    rw [hchunks]
    exact ⟨_, rfl⟩
  obtain ⟨steps, hplan⟩ := hplan
  have hinsert : (insert orderLine newLines .tempTable none singly tally).value
      = .ok (steps.map (Step.build .mysql)) := by
    rw [insert, hplan]
    rfl
  obtain ⟨-, hinserts, hdeletes, hselects, -⟩ :=
    staged_plans_closed build_orderLine singly hsuffixes hdistinct
  refine ⟨build_orderLine, hsuffixes, hdistinct, _, _, _, _, hinsert, rfl, rfl, ?_, ?_, ?_⟩
  · obtain ⟨groups, hread, -, hgroups⟩ := hinserts newLines none _ hinsert
    rw [hchunks] at hgroups
    obtain ⟨first, rest, hfirst, hrest, rfl⟩ := List.forall₂_cons_left_iff.mp hgroups
    obtain ⟨second, rest, hsecond, hnil, rfl⟩ := List.forall₂_cons_left_iff.mp hrest
    obtain rfl := List.forall₂_nil_left_iff.mp hnil
    rw [List.flatten_cons, List.flatten_singleton] at hread
    exact ⟨first, second, hread, hfirst, hsecond⟩
  · obtain ⟨records, hrecords, hsteps⟩ := hdeletes (.records lineConditions) true _ rfl rfl
    obtain rfl : lineConditions = records := Except.ok.inj hrecords
    obtain ⟨fills, action, scope, hread, hstages⟩ :=
      hsteps.resolve_left fun hnone => List.cons_ne_nil _ _ hnone.1
    obtain ⟨first, second, rfl⟩ := List.length_eq_two.mp hstages.pieces
    exact ⟨first, second, _, hread⟩
  · obtain ⟨records, hrecords, fills, queries, s, hread, hstages, hposition, hanswers, -⟩ :=
      hselects (.records lineConditions) true none _ _ rfl rfl
    obtain rfl : lineConditions = records := Except.ok.inj hrecords
    obtain ⟨first, second, rfl⟩ := List.length_eq_two.mp hstages.pieces
    exact ⟨⟨first, second, _, hread⟩, hposition, s, hanswers⟩

/-- A delete by a predicate is a single statement also where a temporary table is asked for. -/
theorem predicate_plan_without_table :
    (delete orderLine (.raw "line = :line" (.object [("line", .int 1)])) .tempTable false .standard
      tally).value = .ok [⟨"DELETE FROM order_line WHERE line = ?", [.int 1]⟩] ∧
    ∀ temp fills use, ¬ AreRead .mysql
      [⟨"DELETE FROM order_line WHERE line = ?", [.int 1]⟩] (bracket temp fills use) := by
  have hregions : Binding.regions .mysql "line = :line".toList =
      ("line = ".toList.map fun c => .verbatim [c]) ++ [.marker "line".toList] := by
    decide +kernel
  have hbind : Binding.bindSql "line = :line" (.object [("line", .int 1)]) Config.standard.dialect
      = .ok ⟨[.raw "line = ", .param], [.int 1]⟩ := by
    rw [Binding.bindSql, show Config.standard.dialect = .mysql from rfl, hregions]
    rfl
  refine ⟨?_, fun temp fills use h => ?_⟩
  · rw [delete, deletePlan]
    simp only [hbind]
    rfl
  · simpa [bracket] using List.Forall₂.length_eq h

end Batch

end QueryLoom

import Mathlib
import QueryLoom.Proofs.MapEntries
import QueryLoom.Proofs.Mentions
import QueryLoom.Proofs.Results
import QueryLoom.Registry.Compile

/-!
# What a registry has under an id

A call changes a registry in steps: each puts a source under an id, or a text that other templates
can insert. The changes that were made decide what is under an id: the last source, and the last
text that was put there since. The template that is read for the id is the one of that text, and
only without such a text the one of the source.

The runs of fixed calls are evaluated with equations of library functions that come with the whole
of Mathlib only.
-/

namespace QueryLoom

open Template.Store (namesIn)

/-! ### Results of edits -/

namespace Edit

variable {α β : Type}

/-- The result of a change and the registry after it, without the events. -/
def outcome (edit : Edit α) (r : Registry) : SqlResult α × Registry :=
  (edit.run.run r : Logged (SqlResult α × Registry)).value

lemma fst_apply (edit : Edit α) (r : Registry) : (edit.apply r).1 = (edit.outcome r).2 := rfl

lemma outcome_bind (edit : Edit α) (f : α → Edit β) (r : Registry) :
    (edit >>= f).outcome r =
      match edit.outcome r with
      | (.ok a, next) => (f a).outcome next
      | (.error e, next) => (.error e, next) := by
  change (ExceptT.bindCont f (edit.outcome r).1 (edit.outcome r).2).value = _
  obtain ⟨result, next⟩ := edit.outcome r
  cases result <;> rfl

@[simp] lemma outcome_get (r : Registry) : (get : Edit Registry).outcome r = (.ok r, r) := rfl

@[simp] lemma outcome_lift (result : SqlResult α) (r : Registry) :
    (liftM result : Edit α).outcome r = (result, r) := by
  cases result <;> rfl

@[simp] lemma outcome_set (r next : Registry) :
    (set next : Edit PUnit).outcome r = (.ok ⟨⟩, next) := rfl

lemma outcome_changeStore (edit : Template.StoreEdit α) (r : Registry) :
    (changeStore edit).outcome r =
      ((edit.apply r.store).1, { r with store := (edit.apply r.store).2 }) := by
  simp only [changeStore, outcome_bind, outcome_get, outcome_set, outcome_lift]

lemma outcome_insert (id : String) (source : Source) (r : Registry) :
    (insert id source).outcome r =
      (.ok (), { r with sources := KeyMap.insert id source r.sources }) := by
  have hrecord (e : Event) : (liftM (Logged.record e) : Edit Unit).outcome r = (.ok (), r) := rfl
  rw [insert, outcome_bind, hrecord]
  simp only [outcome_bind, outcome_get, outcome_set]
  cases r.source? id <;> rfl

/-- The registry after a change, if it is not refused. -/
def accepted (edit : Edit α) (r : Registry) : SqlResult Registry :=
  match edit.outcome r with
  | (.ok _, next) => .ok next
  | (.error e, _) => .error e

end Edit

/-! ### Changes -/

/-- The text of a source that is read when it is registered. -/
def Source.text? : Source → Option String
  | .text body => some body
  | .generator _ | .tree _ => none

namespace Registry

variable {r next : Registry} {id : String}

/-- Something is put under an id: a source, or a text that other templates can insert. -/
inductive Change where
  | source (id : String) (source : Source)
  | insertable (name text : String)

/-- The edit that makes a change. -/
def Change.edit : Change → Edit Unit
  | .source id given => .register id given
  | .insertable name text => .registerPartial name text

/-- The registry after a change, if it is not refused. -/
def Change.attempt (r : Registry) (c : Change) : SqlResult Registry := c.edit.accepted r

/-- The store after a source was put under an id: it holds the texts among the sources. -/
def storeWith (r : Registry) (id : String) : Source → SqlResult Template.Store
  | .text text => r.store.register id text
  | .generator _ | .tree _ => .ok (r.store.unregister id)

lemma outcome_insertUnread (id : String) (given : Source) (r : Registry) :
    (Edit.insertUnread id given).outcome r =
      (.ok (), ⟨KeyMap.insert id given r.sources, r.store.unregister id, r.enums⟩) := by
  rw [Edit.insertUnread, Edit.outcome_bind, Edit.outcome_get]
  dsimp only
  cases hcontains : r.store.contains id with
  | true =>
    rw [if_pos rfl, Edit.outcome_bind, Edit.outcome_changeStore]
    exact Edit.outcome_insert id given _
  | false =>
    have hstore : r.store.unregister id = r.store := KeyMap.erase_of_has_eq_false hcontains
    rw [hstore]
    exact Edit.outcome_insert id given r

/-- A source is put under its id after the store has changed; if the store refuses it, nothing has
changed. -/
lemma outcome_register (id : String) (given : Source) (r : Registry) :
    (Edit.register id given).outcome r =
      match r.storeWith id given with
      | .ok store => (.ok (), { r with sources := KeyMap.insert id given r.sources, store })
      | .error e => (.error e, r) := by
  cases given with
  | text body =>
    rw [Edit.register, Edit.outcome_bind, Edit.outcome_changeStore,
      Template.Store.apply_register_eq, storeWith]
    cases r.store.register id body with
    | error e => rfl
    | ok store => exact Edit.outcome_insert id (.text body) _
  | generator make => exact outcome_insertUnread id (.generator make) r
  | tree nodes => exact outcome_insertUnread id (.tree nodes) r

lemma outcome_registerPartial (name text : String) (r : Registry) :
    (Edit.registerPartial name text).outcome r =
      match r.store.register name text with
      | .ok store => (.ok (), { r with store })
      | .error e => (.error e, r) := by
  rw [Edit.registerPartial, Edit.outcome_changeStore, Template.Store.apply_register_eq]
  cases r.store.register name text <;> rfl

lemma Change.attempt_source (r : Registry) (id : String) (given : Source) :
    (Change.source id given).attempt r = (r.storeWith id given).map fun store =>
      { r with sources := KeyMap.insert id given r.sources, store } := by
  rw [attempt, Edit.accepted, edit, outcome_register]
  cases r.storeWith id given <;> rfl

lemma Change.attempt_insertable (r : Registry) (name text : String) :
    (Change.insertable name text).attempt r = (r.store.register name text).map fun store =>
      { r with store } := by
  rw [attempt, Edit.accepted, edit, outcome_registerPartial]
  cases r.store.register name text <;> rfl

/-- A change that is refused leaves the registry as it is. -/
lemma Change.outcome_edit (r : Registry) (c : Change) : c.edit.outcome r =
    match c.attempt r with
    | .ok next => (.ok (), next)
    | .error e => (.error e, r) := by
  cases c with
  | source id given =>
    rw [attempt_source, edit, outcome_register]
    cases r.storeWith id given <;> rfl
  | insertable name text =>
    rw [attempt_insertable, edit, outcome_registerPartial]
    cases r.store.register name text <;> rfl

lemma outcome_registerAll_cons (r : Registry) (id : String) (given : Source)
    (sources : List (String × Source)) :
    (Edit.registerAll ((id, given) :: sources)).outcome r =
      match (Change.source id given).attempt r with
      | .ok next => (((Edit.registerAll sources).outcome next).1.map (· + 1),
          ((Edit.registerAll sources).outcome next).2)
      | .error e => (.error e, r) := by
  have hfirst := Change.outcome_edit r (.source id given)
  rw [Change.edit] at hfirst
  simp only [Edit.registerAll, List.forM_eq_forM, List.forM_cons, Edit.outcome_bind, hfirst]
  cases (Change.source id given).attempt r with
  | error e => rfl
  | ok next =>
    dsimp only
    generalize (forM sources fun x => Edit.register x.1 x.2).outcome next = found
    obtain ⟨result, last⟩ := found
    cases result <;> rfl

/-- Make changes one after the other, up to the first one that is refused. The changes that were
made are part of the result. -/
def makeAll (r : Registry) : List Change → Registry × List Change
  | [] => (r, [])
  | c :: cs =>
    match c.attempt r with
    | .error _ => (r, [])
    | .ok next => ((next.makeAll cs).1, c :: (next.makeAll cs).2)

lemma foldlM_makeAll (r : Registry) (cs : List Change) :
    (r.makeAll cs).2.foldlM Change.attempt r = .ok (r.makeAll cs).1 := by
  induction cs generalizing r with
  | nil => rfl
  | cons c cs ih =>
    rw [makeAll]
    cases hc : c.attempt r with
    | error e => rfl
    | ok next =>
      rw [List.foldlM_cons, hc]
      exact ih next

/-! ### Calls -/

/-- A call that changes a registry. -/
inductive Call where
  | register (id : String) (source : Source)
  | registerPartial (name text : String)
  | loadMarkdown (namespaceName text : String)
  | loadMapper (namespaceName xml : String)

namespace Call

/-- The registry after a call, also after one that fails. -/
def run (r : Registry) : Call → Registry
  | .register id source => ((Edit.register id source).apply r).1
  | .registerPartial name text => ((Edit.registerPartial name text).apply r).1
  | .loadMarkdown namespaceName text => ((Edit.loadMarkdown namespaceName text).apply r).1
  | .loadMapper namespaceName xml => ((Edit.loadMapper namespaceName xml).apply r).1

/-- The changes for the blocks of a mapper. -/
def mapperChanges (namespaceName : String) (mapper : Markup.Mapper) : List Change :=
  let space := if namespaceName.isEmpty then mapper.namespaceName?.getD "" else namespaceName
  if space.isEmpty then []
  else mapper.blocks.map fun block => .source (space ++ "." ++ block.id) (.tree block.body)

/-- The changes that a call asks for. -/
def changes : Call → List Change
  | .register id source => [.source id source]
  | .registerPartial name text => [.insertable name text]
  | .loadMarkdown namespaceName text =>
    (queriesOf text).map fun (id, sql) => .source (namespaceName ++ "." ++ id) (.text sql)
  | .loadMapper namespaceName xml =>
    match Markup.Mapper.parse xml with
    | .ok mapper => mapperChanges namespaceName mapper
    | .error _ => []

lemma outcome_registerAll (r : Registry) (sources : List (String × Source)) :
    ((Edit.registerAll sources).outcome r).2 =
      (r.makeAll (sources.map fun (id, source) => .source id source)).1 := by
  induction sources generalizing r with
  | nil => rfl
  | cons entry sources ih =>
    obtain ⟨id, source⟩ := entry
    rw [outcome_registerAll_cons, List.map_cons, makeAll]
    cases (Change.source id source).attempt r with
    | error e => rfl
    | ok next => exact ih next

lemma snd_outcome_edit (r : Registry) (c : Change) : (c.edit.outcome r).2 = (r.makeAll [c]).1 := by
  rw [Change.outcome_edit, makeAll]
  cases c.attempt r <;> rfl

/-- A call makes the changes that it asks for, up to the first one that is refused. -/
lemma run_eq (r : Registry) (call : Call) : call.run r = (r.makeAll call.changes).1 := by
  cases call with
  | register id source => exact snd_outcome_edit r (.source id source)
  | registerPartial name text => exact snd_outcome_edit r (.insertable name text)
  | loadMarkdown namespaceName text =>
    rw [run, Edit.fst_apply, Edit.loadMarkdown, outcome_registerAll, List.map_map, changes]
    rfl
  | loadMapper namespaceName xml =>
    rw [run, Edit.fst_apply, Edit.loadMapper, Edit.outcome_bind, Edit.outcome_lift, changes]
    cases Markup.Mapper.parse xml with
    | error e => rfl
    | ok mapper =>
      dsimp only [mapperChanges]
      generalize (if namespaceName.isEmpty then mapper.namespaceName?.getD "" else namespaceName) =
        space
      cases hspace : space.isEmpty with
      | true =>
        rfl
      | false =>
        simp only [Bool.false_eq_true, if_false]
        rw [outcome_registerAll, List.map_map]
        rfl

end Call

/-- The registry after calls one after the other. -/
def runAll (r : Registry) (calls : List Call) : Registry := calls.foldl Call.run r

/-- The changes that were made by calls one after the other. -/
def madeBy (r : Registry) : List Call → List Change
  | [] => []
  | call :: calls => (r.makeAll call.changes).2 ++ madeBy (call.run r) calls

/-- The changes that were made lead to the registry. -/
lemma foldlM_madeBy (r : Registry) (calls : List Call) :
    (r.madeBy calls).foldlM Change.attempt r = .ok (r.runAll calls) := by
  induction calls generalizing r with
  | nil => rfl
  | cons call calls ih =>
    rw [madeBy, List.foldlM_append, foldlM_makeAll, ← call.run_eq]
    exact ih (call.run r)

/-! ### Slots -/

/-- What was put under an id: its source, and the text that was put there since. -/
structure Slot where
  source? : Option Source
  insertable? : Option String

namespace Slot

/-- What is under an id after a change. -/
def after (id : String) (slot : Slot) : Change → Slot
  | .source id' given => if id' = id then ⟨some given, none⟩ else slot
  | .insertable name text => if name = id then { slot with insertable? := some text } else slot

/-- The text under an id: the one that was put there last, be it the text of the source. -/
def text? (slot : Slot) : Option String :=
  slot.insertable?.or (slot.source?.bind Source.text?)

end Slot

/-- What is under an id after some changes were made. -/
def slotOf (id : String) (made : List Change) : Slot := made.foldl (Slot.after id) ⟨none, none⟩

/-- The store has under an id the template that is read from a text, or none. -/
def Holds (s : Template.Store) (id : String) : Option String → Prop
  | none => KeyMap.get? id s = none
  | some text => ∃ nodes, Template.Node.parse text = .ok nodes ∧
      KeyMap.get? id s = some ⟨nodes, namesIn text⟩

/-- A registry has under an id what a slot says. -/
structure Agrees (r : Registry) (id : String) (slot : Slot) : Prop where
  source : r.source? id = slot.source?
  holds : Holds r.store id slot.text?

lemma agrees_empty (enums : Clause.EnumTable) (id : String) :
    (empty enums).Agrees id ⟨none, none⟩ := ⟨rfl, rfl⟩

lemma holds_register {s s' : Template.Store} {text : String}
    (h : s.register id text = .ok s') : Holds s' id (some text) := by
  obtain ⟨nodes, hparse, rfl, -⟩ := Template.Store.register_eq_ok.mp h
  exact ⟨nodes, hparse, KeyMap.get?_insert_self id _ s⟩

lemma Holds.of_get?_eq {s s' : Template.Store} {text? : Option String} (h : Holds s id text?)
    (hget : KeyMap.get? id s' = KeyMap.get? id s) : Holds s' id text? := by
  cases text? with
  | none => exact hget.trans h
  | some text =>
    obtain ⟨nodes, hparse, hnodes⟩ := h
    exact ⟨nodes, hparse, hget.trans hnodes⟩

lemma get?_register {s s' : Template.Store} {name text : String}
    (h : s.register name text = .ok s') (hne : id ≠ name) :
    KeyMap.get? id s' = KeyMap.get? id s := by
  obtain ⟨nodes, -, rfl, -⟩ := Template.Store.register_eq_ok.mp h
  exact KeyMap.get?_insert_of_ne hne _ s

/-- A source that is registered takes away all that was under its id. -/
lemma holds_storeWith {given : Source} {store : Template.Store}
    (h : r.storeWith id given = .ok store) : Holds store id given.text? := by
  cases given with
  | text body => exact holds_register h
  | generator make =>
    cases h
    exact (KeyMap.get?_erase id id r.store).trans (if_pos rfl)
  | tree nodes =>
    cases h
    exact (KeyMap.get?_erase id id r.store).trans (if_pos rfl)

lemma get?_storeWith {id' : String} {given : Source} {store : Template.Store}
    (h : r.storeWith id' given = .ok store) (hne : id ≠ id') :
    KeyMap.get? id store = KeyMap.get? id r.store := by
  cases given with
  | text body => exact get?_register h hne
  | generator make =>
    cases h
    exact (KeyMap.get?_erase id' id r.store).trans (if_neg hne)
  | tree nodes =>
    cases h
    exact (KeyMap.get?_erase id' id r.store).trans (if_neg hne)

/-- What is under an id stays in agreement when a change is made. -/
lemma Agrees.attempt {slot : Slot} (h : r.Agrees id slot) {c : Change}
    (hc : c.attempt r = .ok next) : next.Agrees id (slot.after id c) := by
  cases c with
  | source id' given =>
    rw [Change.attempt_source] at hc
    obtain ⟨store, hstore, rfl⟩ := SqlResult.map_eq_ok.mp hc
    by_cases hid : id' = id
    · subst hid
      rw [Slot.after, if_pos rfl]
      exact ⟨KeyMap.get?_insert_self id' given r.sources, holds_storeWith hstore⟩
    · rw [Slot.after, if_neg hid]
      have hne : id ≠ id' := Ne.symm hid
      exact ⟨(KeyMap.get?_insert_of_ne hne given r.sources).trans h.source,
        h.holds.of_get?_eq (get?_storeWith hstore hne)⟩
  | insertable name text =>
    rw [Change.attempt_insertable] at hc
    obtain ⟨store, hstore, rfl⟩ := SqlResult.map_eq_ok.mp hc
    by_cases hid : name = id
    · subst hid
      rw [Slot.after, if_pos rfl]
      exact ⟨h.source, holds_register hstore⟩
    · rw [Slot.after, if_neg hid]
      exact ⟨h.source, h.holds.of_get?_eq (get?_register hstore (Ne.symm hid))⟩

lemma Agrees.foldlM {slot : Slot} (h : r.Agrees id slot) {cs : List Change}
    (hcs : cs.foldlM Change.attempt r = .ok next) :
    next.Agrees id (cs.foldl (Slot.after id) slot) := by
  induction cs generalizing r slot with
  | nil =>
    cases hcs
    exact h
  | cons c cs ih =>
    rw [List.foldlM_cons, SqlResult.bind_eq_ok] at hcs
    obtain ⟨r', hc, hcs⟩ := hcs
    exact ih (h.attempt hc) hcs

/-- After any calls, what is under an id is what the changes that were made say. -/
lemma agrees_runAll (enums : Clause.EnumTable) (calls : List Call) (id : String) :
    (runAll (empty enums) calls).Agrees id (slotOf id (madeBy (empty enums) calls)) :=
  (agrees_empty enums id).foldlM (foldlM_madeBy (empty enums) calls)

/-! ### Loading -/

/-- The expansion of a text as the template of an id. -/
def expansion (r : Registry) (id text : String) (request : Request) (d : Dialect) :
    SqlResult String :=
  Template.expandWith request d r.enums fun x =>
    match (Template.Node.parse text).bind fun nodes =>
      Template.render r.store.nodes? (some id) nodes request.view x with
    | .ok found => .ok found
    | .error reason => .error (.parse [id] (.template reason))

lemma expand_eq {text : String} (h : Holds r.store id (some text)) (request : Request)
    (d : Dialect) : r.store.expand r.enums id request d = r.expansion id text request d := by
  obtain ⟨nodes, hparse, hget⟩ := h
  have hnodes : r.store.nodes? id = some nodes := by
    rw [Template.Store.nodes?, hget]
    rfl
  rw [Template.Store.expand, expansion]
  congr 1
  funext x
  rw [Template.Store.render, hnodes, hparse]
  rfl

lemma load_eq {candidates : List String} {body : String}
    (h : r.resolve candidates = .ok (id, .text body)) (request : Request) (d : Dialect) :
    r.load candidates request d = liftM (r.store.expand r.enums id request d) := by
  rw [load, h]
  rfl

lemma resolve_singleton {given : Source} (h : r.source? id = some given) :
    r.resolve [id] = .ok (id, given) := by
  simp [resolve, h]

/-- After any calls, an id has the source that was put there last. Where that is a text, a request
that resolves to it loads the expansion of that text, or of the text that other templates can insert
that was put under the id since; the store has exactly the template of this text. Where it is no
text, the store has no template under the id but one that was put there since. -/
theorem load_runAll (enums : Clause.EnumTable) (calls : List Call) (id : String) :
    let r := runAll (empty enums) calls
    let slot := slotOf id (madeBy (empty enums) calls)
    r.source? id = slot.source? ∧
    (∀ body, r.source? id = some (.text body) →
      r.resolve [id] = .ok (id, .text body) ∧
      Holds r.store id (some (slot.insertable?.getD body)) ∧
      ∀ candidates request d, r.resolve candidates = .ok (id, .text body) →
        r.load candidates request d =
          liftM (r.expansion id (slot.insertable?.getD body) request d)) ∧
    ((∀ body, r.source? id ≠ some (.text body)) → Holds r.store id slot.insertable?) := by
  intro r slot
  have hagrees : r.Agrees id slot := agrees_runAll enums calls id
  refine ⟨hagrees.source, fun body hsource => ?_, fun hsource => ?_⟩
  · have hholds : Holds r.store id (some (slot.insertable?.getD body)) := by
      have htext : slot.text? = some (slot.insertable?.getD body) := by
        rw [Slot.text?, ← hagrees.source, hsource]
        cases slot.insertable? <;> rfl
      rw [← htext]
      exact hagrees.holds
    refine ⟨resolve_singleton hsource, hholds, fun candidates request d hresolve => ?_⟩
    rw [load_eq hresolve, expand_eq hholds]
  · have htext : slot.text? = slot.insertable? := by
      have hnone : slot.source?.bind Source.text? = none := by
        rw [← hagrees.source]
        cases hr : r.source? id with
        | none => rfl
        | some given =>
          cases given with
          | text body => exact absurd hr (hsource body)
          | generator make => rfl
          | tree nodes => rfl
      rw [Slot.text?, hnone, Option.or_none]
    rw [← htext]
    exact hagrees.holds

/-- A text alone under its id, and a tree in the place of a text. -/
theorem load_runAll_replaced :
    (runAll (empty []) [.register "t.q" (.text "SELECT 1")]).load ["t.q"] .standard .mysql =
      liftM ((runAll (empty []) [.register "t.q" (.text "SELECT 1")]).expansion "t.q" "SELECT 1"
        .standard .mysql) ∧
    Holds (runAll (empty []) [.register "t.q" (.text "SELECT 1"), .register "t.q" (.tree [])]).store
      "t.q" none := by
  constructor
  · obtain ⟨-, htext, -⟩ := load_runAll [] [.register "t.q" (.text "SELECT 1")] "t.q"
    have hsource : (runAll (empty []) [.register "t.q" (.text "SELECT 1")]).source? "t.q" =
        some (.text "SELECT 1") := by cbv
    obtain ⟨hresolve, -, hload⟩ := htext "SELECT 1" hsource
    rw [hload ["t.q"] .standard .mysql hresolve]
    have hnone : (slotOf "t.q" (madeBy (empty []) [.register "t.q" (.text "SELECT 1")])).insertable?
        = none := by cbv
    rw [hnone]
    rfl
  · obtain ⟨-, -, hother⟩ :=
      load_runAll [] [.register "t.q" (.text "SELECT 1"), .register "t.q" (.tree [])] "t.q"
    have hsource : (runAll (empty []) [.register "t.q" (.text "SELECT 1"),
        .register "t.q" (.tree [])]).source? "t.q" = some (.tree []) := by cbv
    have hnone : (slotOf "t.q" (madeBy (empty []) [.register "t.q" (.text "SELECT 1"),
        .register "t.q" (.tree [])])).insertable? = none := by cbv
    rw [← hnone]
    refine hother fun body hbody => ?_
    rw [hsource] at hbody
    cases hbody

/-- Calls that put a text under the id of a source. -/
def takenId : List Call :=
  [.register "t.q" (.text "SELECT 1"), .registerPartial "t.q" "SELECT 2"]

/-- A text that other templates can insert takes the place of the template of a source, and the
source stays. -/
theorem load_takenId :
    (runAll (empty []) takenId).resolve ["t.q"] = .ok ("t.q", .text "SELECT 1") ∧
    ((runAll (empty []) takenId).load ["t.q"] .standard .mysql).run.value = .ok "SELECT 2" ∧
    (runAll (empty []) takenId).expansion "t.q" "SELECT 1" .standard .mysql = .ok "SELECT 1" ∧
    ¬ Holds (runAll (empty []) takenId).store "t.q" (some "SELECT 1") := by
  refine ⟨by cbv, by cbv, by cbv, ?_⟩
  rintro ⟨nodes, hparse, hget⟩
  have hone : Template.Node.parse "SELECT 1" = .ok [.text "SELECT 1"] := by cbv
  have htwo : (runAll (empty []) takenId).store.nodes? "t.q" = some [.text "SELECT 2"] := by cbv
  rw [hone] at hparse
  cases hparse
  rw [Template.Store.nodes?, hget] at htwo
  simp at htwo

end Registry

end QueryLoom

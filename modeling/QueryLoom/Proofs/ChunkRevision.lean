import QueryLoom.Proofs.Dml.Meaning
import QueryLoom.Proofs.Dml.Steps
import QueryLoom.Proofs.JsonEquality
import QueryLoom.Proofs.UpdatePlan

/-!
# What the update of a chunk does

The statement for a chunk of records gives each column of a row the first value that a record with
the key of the row has for it, and leaves all other cells alone.
-/

namespace QueryLoom.Batch

open Dml

/-! ### Revisions -/

/-- An engine to which values are equal exactly if they are so as data. -/
def dataEngine (d : Dialect) : Engine := ⟨d, fun a b => a == b⟩

/-- Whether a row has the key of a record. -/
def hasKey (d : Dialect) (e : Entity) (row : TableRow) (r : Record) : Bool :=
  e.primaryKeys.all fun f => row (columnName d f.part) == (r.get? f.name).getD .null

/-- The first value that a record with the key of a row gives a field. -/
def firstGiven? (d : Dialect) (e : Entity) (policy : SkipPolicy) (row : TableRow)
    (records : List Record) (f : Field) : Option Json :=
  records.findSome? fun r => if hasKey d e row r then changedValue? policy r f else none

/-- The field outside of the primary key that has a column. -/
def changeable? (d : Dialect) (e : Entity) (c : String) : Option Field :=
  e.fields.find? fun f => !f.primaryKey && columnName d f.part == c

/-- A row with new values in the columns of some fields outside of the primary key. -/
def withValues (d : Dialect) (e : Entity) (given : Field → Option Json) (row : TableRow) :
    TableRow := fun c =>
  match changeable? d e c with
  | some f => (given f).getD (row c)
  | none => row c

/-- A row after the statement of a chunk. -/
def revise (d : Dialect) (e : Entity) (policy : SkipPolicy) (records : List Record)
    (row : TableRow) : TableRow :=
  withValues d e (firstGiven? d e policy row records) row

section

variable {d : Dialect} {e : Entity} {policy : SkipPolicy} {r : Record} {records : List Record}
  {row : TableRow} {f : Field}

/-! ### Keys -/

/-- Nothing equals null. -/
lemma isNull_of_beq {a b : Json} (hb : b.isNull = false) (h : (a == b) = true) :
    a.isNull = false := by
  cases a with
  | null =>
    cases b with
    | null => exact hb
    | _ => cases h
  | _ => rfl

lemma compare_eq_yes {a b : Json} (hb : b.isNull = false) :
    (dataEngine d).compare a b = .yes ↔ (a == b) = true := by
  unfold Engine.compare
  cases ha : a.isNull with
  | false => simp [hb, dataEngine]
  | true =>
    simp only [Bool.true_or, if_true, reduceCtorEq, false_iff]
    intro h
    rw [isNull_of_beq hb h] at ha
    cases ha

/-- The conditions of the key of a record hold of the rows with its key. -/
lemma alternative_key (hr : IsKeyed e r) :
    (dataEngine d).alternative row ⟨(matchesOf e.primaryKeys r).map equalTest, none⟩ = .yes
      ↔ hasKey d e row r = true := by
  rw [Engine.alternative, Truth.all_eq_yes, hasKey, List.all_eq_true]
  simp only [matchesOf, List.map_map, List.mem_map, Function.comp_apply, forall_exists_index,
    and_imp, forall_apply_eq_imp_iff₂]
  refine forall₂_congr fun f hf => ?_
  exact compare_eq_yes (isNull_of_isGiven (hr f hf))

lemma addressed_eq_true {g : Engine} {as : List Engine.Alternative} :
    g.addressed row as = true ↔ ∃ a ∈ as, g.alternative row a = .yes := by
  rw [Engine.addressed, decide_eq_true_iff, Truth.any_eq_yes, List.mem_map]

/-- The rows that an update addresses are those with one of its keys. -/
lemma addressed_keyScope (d : Dialect) (hne : e.primaryKeys ≠ [])
    (hrecords : ∀ r ∈ records, IsKeyed e r) (temps : Temps) :
    ∃ as, Engine.alternatives temps
      (keyScope e.primaryKeys (records.map (matchesOf e.primaryKeys))) = some as ∧
        ∀ row, (dataEngine d).addressed row as = true ↔ ∃ r ∈ records, hasKey d e row r = true := by
  have hgroups (row : TableRow) : (dataEngine d).addressed row ((records.map fun r =>
      (matchesOf e.primaryKeys r).map equalTest).map fun tests => ⟨tests, none⟩) = true
        ↔ ∃ r ∈ records, hasKey d e row r = true := by
    rw [addressed_eq_true]
    simp only [List.map_map, List.mem_map, Function.comp_apply, exists_exists_and_eq_and]
    exact exists_congr fun r => and_congr_right fun hr => alternative_key (hrecords r hr)
  match hkeys : e.primaryKeys with
  | [] => exact absurd hkeys hne
  | _ :: _ :: _ =>
    rw [hkeys] at hgroups
    refine ⟨_, rfl, fun row => ?_⟩
    rw [← hgroups row, List.map_map, List.map_map, List.map_map]
    rfl
  | [key] =>
    -- One test compares the key with a list of values instead.
    refine ⟨_, rfl, fun row => ?_⟩
    have hvalue (r : Record) (hr : r ∈ records) :
        (dataEngine d).compare (row (columnName d key.part)) ((r.get? key.name).getD .null) = .yes
          ↔ hasKey d e row r = true := by
      have hgiven := hrecords r hr key (by simp [hkeys])
      rw [compare_eq_yes (isNull_of_isGiven hgiven), hasKey, hkeys]
      simp
    have hvalues : ((records.map (matchesOf [key])).flatMap fun ms => ms.map (·.value))
        = records.map fun r => (r.get? key.name).getD .null := by
      rw [List.flatMap_map]
      exact List.map_eq_flatMap.symm
    rw [addressed_eq_true]
    simp only [List.map_cons, List.map_nil, List.mem_singleton, exists_eq_left]
    rw [Engine.alternative, Truth.all_eq_yes]
    simp only [List.map_cons, List.map_nil, List.mem_singleton, forall_eq]
    rw [Engine.truth, Truth.any_eq_yes, hvalues]
    simp only [List.map_map, List.mem_map, Function.comp_apply]
    exact exists_congr fun r => and_congr_right fun hr => hvalue r hr

/-! ### Values -/

lemma mem_sets {m : Match} : m ∈ (changeOf e policy r).sets ↔
    m.field ∈ e.fields ∧ m.field.primaryKey = false ∧
      changedValue? policy r m.field = some m.value := by
  simp only [changeOf, List.mem_filterMap, List.mem_filter, Bool.not_eq_true',
    Option.map_eq_some_iff]
  constructor
  · rintro ⟨f, ⟨hf, hkey⟩, v, hv, rfl⟩
    exact ⟨hf, hkey, hv⟩
  · rintro ⟨hf, hkey, hv⟩
    exact ⟨m.field, ⟨hf, hkey⟩, m.value, hv, rfl⟩

/-- A change sets exactly the fields outside of the primary key that have a value. -/
lemma valueOf?_changeOf (he : Accepted e) (hf : f ∈ e.fields) :
    (changeOf e policy r).valueOf? f = if f.primaryKey then none else changedValue? policy r f := by
  cases hfind : (changeOf e policy r).sets.find? (·.field.name = f.name) with
  | none =>
    rw [Change.valueOf?, hfind, Option.map_none]
    split_ifs with hkey
    · rfl
    · cases hvalue : changedValue? policy r f with
      | none => rfl
      | some v =>
        have hmem : (⟨f, v⟩ : Match) ∈ (changeOf e policy r).sets :=
          mem_sets.mpr ⟨hf, by simpa using hkey, hvalue⟩
        simpa using List.find?_eq_none.mp hfind _ hmem
  | some m =>
    obtain ⟨hm, hkey, hvalue⟩ := mem_sets.mp (List.mem_of_find?_eq_some hfind)
    have hname := List.find?_some hfind
    obtain rfl : m.field = f := he.eq_of_name hm hf (by simpa using hname)
    rw [Change.valueOf?, hfind, Option.map_some, hkey, hvalue]
    rfl

/-- The arms for a field: one for each record that has a value for it. -/
lemma arms_eq (he : Accepted e) (hf : f ∈ e.fields) (hkey : f.primaryKey = false) :
    (assignmentOf (changesOf e policy records) f).arms
      = records.filterMap fun r =>
        (changedValue? policy r f).map fun v => (matchesOf e.primaryKeys r, v) := by
  rw [assignmentOf, changesOf, List.filterMap_filter, List.filterMap_map]
  refine List.filterMap_congr fun r _ => ?_
  have hvalue : (changeOf e policy r).valueOf? f = changedValue? policy r f := by
    rw [valueOf?_changeOf he hf, hkey]
    rfl
  simp only [Function.comp_apply, hvalue]
  split_ifs with hsets
  · rfl
  · -- A change without values has none for this field either.
    rw [Bool.not_eq_true, Bool.not_eq_false', List.isEmpty_iff] at hsets
    rw [Change.valueOf?, hsets] at hvalue
    rw [← hvalue]
    rfl

lemma map_find?_filterMap {α β γ : Type} {key : α → β} {value? : α → Option γ} {p : β → Bool}
    {q : α → Bool} {xs : List α} (h : ∀ x ∈ xs, p (key x) = q x) :
    ((xs.filterMap fun x => (value? x).map fun v => (key x, v)).find? fun y => p y.1).map (·.2)
      = xs.findSome? fun x => if q x then value? x else none := by
  induction xs with
  | nil => rfl
  | cons x xs ih =>
    have hx := h x List.mem_cons_self
    have hxs := ih fun y hy => h y (List.mem_cons_of_mem x hy)
    cases hvalue : value? x with
    | none => simpa [hvalue, -List.find?_filterMap] using hxs
    | some v =>
      cases hp : q x with
      | true => simp [hvalue, hx, hp]
      | false => simpa [hvalue, hx, hp, -List.find?_filterMap] using hxs

/-- A column is set to the first value that a record with the key of the row has for it. -/
lemma newValue_assignmentOf (he : Accepted e) (hf : f ∈ e.fields) (hkey : f.primaryKey = false)
    (hrecords : ∀ r ∈ records, IsKeyed e r) :
    (dataEngine d).newValue row (settingOf (assignmentOf (changesOf e policy records) f)).value
      = (firstGiven? d e policy row records f).getD (row (columnName d f.part)) := by
  have hholds : ∀ r ∈ records, decide ((dataEngine d).alternative row
      ⟨(matchesOf e.primaryKeys r).map equalTest, none⟩ = .yes) = hasKey d e row r := by
    intro r hr
    rw [Bool.eq_iff_iff, decide_eq_true_iff]
    exact alternative_key (hrecords r hr)
  have hfirst : firstGiven? d e policy row records f
      = (((assignmentOf (changesOf e policy records) f).arms.map fun arm =>
          (arm.1.map equalTest, arm.2)).find? fun arm =>
            (dataEngine d).alternative row ⟨arm.1, none⟩ = .yes).map (·.2) := by
    rw [arms_eq he hf hkey, List.map_filterMap]
    simp only [Option.map_map, Function.comp_def]
    exact (@map_find?_filterMap _ _ _ (fun r => (matchesOf e.primaryKeys r).map equalTest) _
      (fun ts => (dataEngine d).alternative row ⟨ts, none⟩ = .yes) _ _ hholds).symm
  rw [settingOf, Engine.newValue, hfirst]
  split
  · next arm hfind => rw [hfind]; rfl
  · next hfind => rw [hfind]; rfl

lemma sets_ne_nil : (changeOf e policy r).sets ≠ [] ↔
    ∃ f ∈ e.fields, f.primaryKey = false ∧ (changedValue? policy r f).isSome = true := by
  constructor
  · intro hne
    obtain ⟨m, hm⟩ := List.exists_mem_of_ne_nil _ hne
    obtain ⟨hf, hkey, hvalue⟩ := mem_sets.mp hm
    exact ⟨m.field, hf, hkey, by simp [hvalue]⟩
  · rintro ⟨f, hf, hkey, hvalue⟩
    obtain ⟨v, hv⟩ := Option.isSome_iff_exists.mp hvalue
    exact List.ne_nil_of_mem (mem_sets (m := ⟨f, v⟩).mpr ⟨hf, hkey, hv⟩)

lemma mem_changesOf {c : Change} : c ∈ changesOf e policy records ↔
    ∃ r ∈ records, (changeOf e policy r).sets ≠ [] ∧ changeOf e policy r = c := by
  simp only [changesOf, List.mem_filter, List.mem_map, Bool.not_eq_true', List.isEmpty_eq_false_iff]
  constructor
  · rintro ⟨⟨r, hr, rfl⟩, hsets⟩
    exact ⟨r, hr, hsets, rfl⟩
  · rintro ⟨r, hr, hsets, rfl⟩
    exact ⟨⟨r, hr, rfl⟩, hsets⟩

lemma mem_changedFields (he : Accepted e) : f ∈ changedFields e (changesOf e policy records) ↔
    f ∈ e.fields ∧ f.primaryKey = false ∧
      ∃ r ∈ records, (changedValue? policy r f).isSome = true := by
  rw [changedFields, List.mem_filter, List.any_eq_true]
  refine and_congr_right fun hf => ?_
  constructor
  · rintro ⟨c, hc, hvalue⟩
    obtain ⟨r, hr, -, rfl⟩ := mem_changesOf.mp hc
    rw [valueOf?_changeOf he hf] at hvalue
    split_ifs at hvalue with hkey
    · cases hvalue
    · exact ⟨by simpa using hkey, r, hr, hvalue⟩
  · rintro ⟨hkey, r, hr, hvalue⟩
    have hsets : (changeOf e policy r).sets ≠ [] := sets_ne_nil.mpr ⟨f, hf, hkey, hvalue⟩
    refine ⟨_, mem_changesOf.mpr ⟨r, hr, hsets, rfl⟩, ?_⟩
    rwa [valueOf?_changeOf he hf, hkey]

lemma firstGiven?_eq_none (h : ∀ r ∈ records, hasKey d e row r = true →
    changedValue? policy r f = none) : firstGiven? d e policy row records f = none := by
  rw [firstGiven?, List.findSome?_eq_none_iff]
  intro r hr
  split_ifs with hkey
  · exact h r hr hkey
  · rfl

/-! ### Rows -/

lemma changeable?_eq_some (he : Accepted e) {c : String} : changeable? d e c = some f ↔
    f ∈ e.fields ∧ f.primaryKey = false ∧ columnName d f.part = c := by
  constructor
  · intro hfind
    have hf := List.find?_some hfind
    simp only [Bool.and_eq_true, Bool.not_eq_true', beq_iff_eq] at hf
    exact ⟨List.mem_of_find?_eq_some hfind, hf⟩
  · rintro ⟨hf, hkey, rfl⟩
    cases hfind : changeable? d e (columnName d f.part) with
    | none => simpa [hkey] using List.find?_eq_none.mp hfind f hf
    | some g =>
      have hg := List.find?_some hfind
      simp only [Bool.and_eq_true, beq_iff_eq] at hg
      rw [eq_of_columnName he (List.mem_of_find?_eq_some hfind) hf hg.2]

/-- The columns that the statement of a chunk sets. -/
def chunkSettings (e : Entity) (policy : SkipPolicy) (records : List Record) : List Setting :=
  (changedFields e (changesOf e policy records)).map fun f =>
    settingOf (assignmentOf (changesOf e policy records) f)

/-- Setting the columns of a chunk in an addressed row is its revision. -/
lemma assign_eq_revise (he : Accepted e) (hrecords : ∀ r ∈ records, IsKeyed e r) :
    (dataEngine d).assign (chunkSettings e policy records) row
      = revise d e policy records row := by
  funext c
  have hcolumn : ((fun s : Setting => decide (columnName (dataEngine d).dialect s.column = c)) ∘
      fun f => settingOf (assignmentOf (changesOf e policy records) f))
        = fun f : Field => decide (columnName d f.part = c) := rfl
  rw [Engine.assign, chunkSettings, List.find?_map, hcolumn, revise, withValues]
  cases hset : (changedFields e (changesOf e policy records)).find? fun f =>
      decide (columnName d f.part = c) with
  | some f =>
    obtain ⟨hf, hkey, -⟩ := (mem_changedFields he).mp (List.mem_of_find?_eq_some hset)
    have hc : columnName d f.part = c := by simpa using List.find?_some hset
    rw [(changeable?_eq_some he).mpr ⟨hf, hkey, hc⟩, Option.map_some, ← hc]
    exact newValue_assignmentOf he hf hkey hrecords
  | none =>
    rw [Option.map_none]
    cases hfind : changeable? d e c with
    | none => rfl
    | some f =>
      obtain ⟨hf, hkey, hc⟩ := (changeable?_eq_some he).mp hfind
      have hnone : firstGiven? d e policy row records f = none := by
        refine firstGiven?_eq_none fun r hr _ => ?_
        by_contra hvalue
        have hmem := (mem_changedFields he).mpr
          ⟨hf, hkey, r, hr, Option.isSome_iff_ne_none.mpr hvalue⟩
        simpa [hc] using List.find?_eq_none.mp hset f hmem
      simp only [hnone, Option.getD_none]

/-- A row without the key of a record that changes something is left alone. -/
lemma revise_eq_self (he : Accepted e) (h : ∀ r ∈ records, (changeOf e policy r).sets ≠ [] →
    hasKey d e row r = false) : revise d e policy records row = row := by
  funext c
  rw [revise, withValues]
  split
  · next f hfind =>
    obtain ⟨hf, hkey, -⟩ := (changeable?_eq_some he).mp hfind
    have hnone : firstGiven? d e policy row records f = none := by
      refine firstGiven?_eq_none fun r hr hrow => ?_
      by_contra hvalue
      rw [h r hr (sets_ne_nil.mpr ⟨f, hf, hkey, Option.isSome_iff_ne_none.mpr hvalue⟩)] at hrow
      cases hrow
    rw [hnone, Option.getD_none]
  · rfl

end

end QueryLoom.Batch

import Mathlib.Data.List.Nodup
import Mathlib.Data.List.Perm.Subperm
import QueryLoom.Batch.Select
import QueryLoom.Proofs.Dml.Accepted
import QueryLoom.Proofs.MapEntries
import QueryLoom.Proofs.Results

/-!
# Records and their chunks

What is known of the values of records, of the conditions that records stand for, and of the chunks
that records are cut into.
-/

namespace QueryLoom

namespace Batch

variable {e : Entity} {r : Record} {f : Field}

lemma validate_eq_ok {config : Config} : config.validate = .ok () ↔ config.maxDeal ≠ 0 := by
  unfold Config.validate
  split_ifs with h <;> simp [h]

/-! ### Values -/

lemma isNull_of_isGiven {value? : Option Json} (h : isGiven value? = true) :
    (value?.getD .null).isNull = false := by
  cases value? with
  | none => cases h
  | some v =>
    simp only [isGiven, Bool.and_eq_true, Bool.not_eq_true'] at h
    exact h.1

/-! ### Chunks -/

lemma forall_mem_chunks {α : Type} {p : α → Prop} {size : Nat} {xs : List α} :
    (∀ chunk ∈ chunks size xs, ∀ x ∈ chunk, p x) ↔ ∀ x ∈ xs, p x := by
  conv_rhs => rw [← flatten_chunks size xs]
  simp only [List.mem_flatten]
  exact ⟨fun h x ⟨chunk, hchunk, hx⟩ => h chunk hchunk x hx,
    fun h chunk hchunk x hx => h x ⟨chunk, hchunk, hx⟩⟩

lemma ne_nil_of_mem_chunks {α : Type} {size : Nat} {xs chunk : List α}
    (h : chunk ∈ chunks size xs) : chunk ≠ [] := by
  fun_induction chunks size xs with
  | case1 => cases h
  | case2 x xs ih =>
    rcases List.mem_cons.mp h with rfl | h
    · exact List.cons_ne_nil _ _
    · exact ih h

lemma length_le_of_mem_chunks {α : Type} {size : Nat} (hsize : 0 < size) {xs chunk : List α}
    (h : chunk ∈ chunks size xs) : chunk.length ≤ size := by
  fun_induction chunks size xs with
  | case1 => cases h
  | case2 x xs ih =>
    rcases List.mem_cons.mp h with rfl | h
    · rw [List.length_cons, List.length_take]
      omega
    · exact ih h

/-- There are as many chunks as are needed for all items. -/
lemma length_chunks {α : Type} {size : Nat} (hsize : 0 < size) (xs : List α) :
    (chunks size xs).length = (xs.length + size - 1) / size := by
  fun_induction chunks size xs with
  | case1 =>
    rw [List.length_nil, List.length_nil, Nat.div_eq_of_lt (by omega)]
  | case2 x xs ih =>
    rw [List.length_cons, ih, List.length_drop, List.length_cons]
    rcases Nat.le_total xs.length (size - 1) with hle | hle
    · rw [Nat.div_eq_of_lt (by omega), Nat.div_eq_of_lt_le (k := 1) (by omega) (by omega)]
    · have hsplit : xs.length + 1 + size - 1 = xs.length - (size - 1) + size - 1 + size := by omega
      rw [hsplit, Nat.add_div_right _ hsize]

/-! ### Fields -/

/-- The fields of some names, or given ones where no names are. -/
def namedFields (e : Entity) (fields : List Field) (names? : Option (List String))
    (unknown : String → SqlError) (none : SqlError) : SqlResult (List Field) := do
  let fields ← match names? with
    | .none => pure fields
    | some names => names.mapM fun n =>
      match e.field? n with
      | some f => Except.ok f
      | .none => Except.error (unknown n)
  if fields.isEmpty then throw none
  return fields

lemma namedFields_ok {given : List Field} (hgiven : ∀ f ∈ given, f ∈ e.fields)
    {names? : Option (List String)} {unknown : String → SqlError} {none : SqlError}
    {fields : List Field} (h : namedFields e given names? unknown none = .ok fields) :
    fields ≠ [] ∧ ∀ f ∈ fields, f ∈ e.fields := by
  have hkept {xs : List Field} (h : (do
      if xs.isEmpty then throw none
      return xs) = (.ok fields : SqlResult (List Field))) : xs ≠ [] ∧ xs = fields := by
    split at h
    · exact absurd h SqlResult.throw_bind_ne_ok
    · next hne => exact ⟨by simpa using hne, SqlResult.pure_eq_ok.mp h⟩
  unfold namedFields at h
  cases names? with
  | none =>
    obtain ⟨hne, rfl⟩ := hkept h
    exact ⟨hne, hgiven⟩
  | some names =>
    obtain ⟨xs, hxs, h⟩ := SqlResult.bind_eq_ok.mp h
    obtain ⟨hne, rfl⟩ := hkept h
    refine ⟨hne, fun f hf => ?_⟩
    obtain ⟨name, -, hname⟩ := exists_of_mem_forall₂ (SqlResult.mapM_eq_ok.mp hxs) hf
    split at hname
    · next g hg =>
      cases hname
      exact List.mem_of_find?_eq_some hg
    · cases hname

/-! ### Conditions of a record -/

/-- The values of the fields that have one, in declaration order. -/
def groupOf (e : Entity) (value? : Field → Option Json) : List Match :=
  e.fields.filterMap fun f => (value? f).map (Match.mk f)

lemma map_field_groupOf (e : Entity) (value? : Field → Option Json) :
    (groupOf e value?).map (·.field) = e.fields.filter fun f => (value? f).isSome := by
  rw [groupOf, List.map_filterMap, ← List.filterMap_eq_filter]
  refine List.filterMap_congr fun f _ => ?_
  cases hvalue : value? f <;> simp [Option.guard, hvalue]

lemma map_name_groupOf (e : Entity) (value? : Field → Option Json) :
    (groupOf e value?).map (·.field.name)
      = (e.fields.filter fun f => (value? f).isSome).map (·.name) := by
  rw [← map_field_groupOf, List.map_map]
  rfl

lemma nodup_names_groupOf (he : Accepted e) (value? : Field → Option Json) :
    ((groupOf e value?).map (·.field.name)).Nodup := by
  rw [map_name_groupOf]
  exact he.names_nodup.sublist (List.filter_sublist.map _)

lemma name_mem_groupOf (he : Accepted e) {value? : Field → Option Json} (hf : f ∈ e.fields) :
    f.name ∈ (groupOf e value?).map (·.field.name) ↔ (value? f).isSome = true := by
  rw [map_name_groupOf, List.mem_map]
  constructor
  · rintro ⟨g, hg, hname⟩
    obtain ⟨hg, hvalue⟩ := List.mem_filter.mp hg
    rwa [← he.eq_of_name hg hf hname]
  · intro hvalue
    exact ⟨f, List.mem_filter.mpr ⟨hf, hvalue⟩, rfl⟩

lemma legible_groupOf (he : Accepted e) (value? : Field → Option Json) :
    Dml.LegibleMatches (groupOf e value?) := by
  intro m hm
  obtain ⟨f, hf, hm⟩ := List.mem_filterMap.mp hm
  obtain ⟨v, -, rfl⟩ := Option.map_eq_some_iff.mp hm
  exact he.legible.fields f hf

lemma matchesOf_recordFields (e : Entity) (r : Record) :
    matchesOf (recordFields e r) r = groupOf e fun f => r.get? f.name := by
  rw [matchesOf, recordFields, groupOf, ← List.filterMap_eq_map, List.filterMap_filter]
  refine List.filterMap_congr fun f _ => ?_
  cases hvalue : r.get? f.name <;> simp [KeyMap.has, hvalue]

/-- The record of conditions with different names has just these names and values. -/
lemma get?_recordOf {group : List Match} (hnodup : (group.map (·.field.name)).Nodup) {m : Match}
    (hm : m ∈ group) : (recordOf group).get? m.field.name = some m.value := by
  have hnames : ((group.map fun m => (m.field.name, m.value)).map Prod.fst).Nodup := by
    rwa [List.map_map]
  exact KeyMap.get?_foldl_insert_of_mem hnames (List.mem_map.mpr ⟨m, hm, rfl⟩) []

lemma matchesOf_recordOf {group : List Match} (hnodup : (group.map (·.field.name)).Nodup) :
    matchesOf (group.map (·.field)) (recordOf group) = group := by
  rw [matchesOf, List.map_map]
  conv_rhs => rw [← List.map_id group]
  refine List.map_congr_left fun m hm => ?_
  rw [Function.comp_apply, get?_recordOf hnodup hm]
  rfl

lemma has_recordOf {group : List Match} (hnodup : (group.map (·.field.name)).Nodup)
    {name : String} : (recordOf group).has name = true ↔ name ∈ group.map (·.field.name) := by
  by_cases hmem : name ∈ group.map (·.field.name)
  · obtain ⟨m, hm, rfl⟩ := List.mem_map.mp hmem
    simp [KeyMap.has, get?_recordOf hnodup hm, hmem]
  · have hnames : name ∉ (group.map fun m => (m.field.name, m.value)).map Prod.fst := by
      rwa [List.map_map]
    have hnone : (recordOf group).get? name = none :=
      KeyMap.get?_foldl_insert_of_notMem hnames []
    simp [KeyMap.has, hnone, hmem]

/-- A record with exactly the values of some fields has no other names. -/
lemma has_of_hasExactly {fields : List Field} (hnodup : (fields.map (·.name)).Nodup)
    (h : hasExactly fields r = true) {name : String} :
    r.has name = true ↔ name ∈ fields.map (·.name) := by
  rw [hasExactly, Bool.and_eq_true, beq_iff_eq, List.all_eq_true] at h
  have hsubset : fields.map (·.name) ⊆ r.keys := by
    intro k hk
    obtain ⟨f, hf, rfl⟩ := List.mem_map.mp hk
    exact KeyMap.has_eq_true.mp (h.2 f hf)
  have hlength : r.keys.length ≤ (fields.map (·.name)).length := by
    rw [KeyMap.keys, List.length_map, List.length_map, h.1]
  have hperm := (List.subperm_of_subset hnodup hsubset).perm_of_length_le hlength
  rw [KeyMap.has_eq_true, hperm.mem_iff]

/-- Where a record has exactly the values of some fields, these are the fields it has values for. -/
lemma filter_eq_of_hasExactly (he : Accepted e) {p q : Field → Bool}
    (h : hasExactly (e.fields.filter p) r = true) (hq : ∀ f ∈ e.fields, q f = r.has f.name) :
    e.fields.filter q = e.fields.filter p := by
  have hnodup : ((e.fields.filter p).map (·.name)).Nodup :=
    he.names_nodup.sublist (List.filter_sublist.map _)
  refine List.filter_congr fun f hf => ?_
  rw [hq f hf, Bool.eq_iff_iff, has_of_hasExactly hnodup h, List.mem_map]
  constructor
  · rintro ⟨g, hg, hname⟩
    obtain ⟨hg, hp⟩ := List.mem_filter.mp hg
    rwa [← he.eq_of_name hg hf hname]
  · intro hp
    exact ⟨f, List.mem_filter.mpr ⟨hf, hp⟩, rfl⟩

/-- Records that have exactly the values of the fields of one of them stand for all their values. -/
lemma map_matchesOf_given (he : Accepted e) {first : Record} {records : List Record}
    (h : ∀ r ∈ records, hasExactly (recordFields e first) r = true) :
    records.map (matchesOf (recordFields e first))
      = records.map fun r => groupOf e fun f => r.get? f.name := by
  refine List.map_congr_left fun r hr => ?_
  have hfields : recordFields e r = recordFields e first :=
    filter_eq_of_hasExactly he (h r hr) fun f _ => rfl
  rw [← hfields]
  exact matchesOf_recordFields e r

/-- Conditions that are records with exactly the fields of one of them are found in these. -/
lemma map_matchesOf_recordOf (he : Accepted e) {value? : Field → Option Json}
    {groups : List (List Match)} (hgroups : ∀ ms ∈ groups, ∃ value?, ms = groupOf e value?)
    (h : ∀ ms ∈ groups, hasExactly ((groupOf e value?).map (·.field)) (recordOf ms) = true) :
    (groups.map recordOf).map (matchesOf ((groupOf e value?).map (·.field))) = groups := by
  rw [List.map_map]
  conv_rhs => rw [← List.map_id groups]
  refine List.map_congr_left fun ms hms => ?_
  have hexact := h ms hms
  obtain ⟨given?, rfl⟩ := hgroups ms hms
  have hnodup := nodup_names_groupOf he given?
  rw [map_field_groupOf] at hexact ⊢
  have hfields := @filter_eq_of_hasExactly e _ he _ (fun f => (given? f).isSome) hexact
    fun f hf => by rw [Bool.eq_iff_iff, has_recordOf hnodup, name_mem_groupOf he hf]
  rw [← hfields, ← map_field_groupOf, Function.comp_apply, matchesOf_recordOf hnodup]
  rfl

end Batch

end QueryLoom

import Mathlib.Data.List.Nodup
import Mathlib.Data.String.Basic
import QueryLoom.KeyMap

/-!
# Entries put into maps

What a map has under a key after entries were put into it one after the other. Maps whose keys
ascend are those that are built in this way, and putting one of them over another map hides what
that one has under the same keys.
-/

namespace QueryLoom.KeyMap

variable {α : Type} {key : String} {entries : List (String × α)}

lemma has_eq_true {m : KeyMap α} : has key m = true ↔ key ∈ keys m := by
  induction m with
  | nil => simp [has, get?, keys]
  | cons entry rest ih =>
    obtain ⟨k, v⟩ := entry
    by_cases hk : key = k
    · simp [has, get?, keys, hk]
    · have hrest : has key ((k, v) :: rest) = has key rest := by simp [has, get?, hk]
      rw [hrest, ih]
      simp [keys, hk]

lemma get?_eq_none {m : KeyMap α} (h : key ∉ keys m) : get? key m = none := by
  rw [← has_eq_true, has, Option.isSome_iff_ne_none, not_not] at h
  exact h

/-- A key that is not in a map is not taken out of it. -/
lemma erase_of_has_eq_false {m : KeyMap α} (h : has key m = false) : erase key m = m := by
  refine List.filter_eq_self.mpr fun entry hentry => ?_
  rw [← Bool.not_eq_true, has_eq_true] at h
  have hne : entry.1 ≠ key := fun heq => h (heq ▸ List.mem_map_of_mem hentry)
  simpa using hne

/-! ### Entries one after the other -/

lemma get?_foldl_insert_of_notMem (h : key ∉ entries.map Prod.fst) (m : KeyMap α) :
    get? key (entries.foldl (fun m entry => m.insert entry.1 entry.2) m) = get? key m := by
  induction entries generalizing m with
  | nil => rfl
  | cons entry rest ih =>
    rw [List.map_cons, List.mem_cons, not_or] at h
    rw [List.foldl_cons, ih h.2, get?_insert_of_ne h.1]

lemma get?_foldl_insert_of_mem (hnodup : (entries.map Prod.fst).Nodup) {value : α}
    (h : (key, value) ∈ entries) (m : KeyMap α) :
    get? key (entries.foldl (fun m entry => m.insert entry.1 entry.2) m) = some value := by
  induction entries generalizing m with
  | nil => cases h
  | cons entry rest ih =>
    rw [List.map_cons, List.nodup_cons] at hnodup
    rw [List.foldl_cons]
    rcases List.mem_cons.mp h with rfl | h
    · rw [get?_foldl_insert_of_notMem hnodup.1, get?_insert_self]
    · exact ih hnodup.2 h _

lemma overlay_append (m : KeyMap α) (xs ys : List (String × α)) :
    m.overlay (xs ++ ys) = (m.overlay xs).overlay ys :=
  List.foldl_append

/-- What lies above hides what lies below under the same key. -/
lemma get?_overlay {upper : KeyMap α} (hnodup : (keys upper).Nodup) (m : KeyMap α) :
    get? key (m.overlay upper) = (get? key upper).or (get? key m) := by
  induction upper generalizing m with
  | nil => rfl
  | cons entry rest ih =>
    obtain ⟨k, v⟩ := entry
    obtain ⟨hk, hrest⟩ : k ∉ keys rest ∧ (keys rest).Nodup := List.nodup_cons.mp hnodup
    have hoverlay : m.overlay ((k, v) :: rest) = (m.insert k v).overlay rest := rfl
    rw [hoverlay, ih hrest]
    by_cases hkey : key = k
    · subst hkey
      simp [get?_eq_none hk, get?]
    · simp [get?_insert_of_ne hkey, get?, hkey]

/-! ### Ascending keys -/

/-- The keys of the map ascend. -/
def Ascending (m : KeyMap α) : Prop := (keys m).Pairwise (· < ·)

lemma Ascending.nodup {m : KeyMap α} (h : m.Ascending) : (keys m).Nodup := h.imp ne_of_lt

lemma mem_keys_insert {k : String} {value : α} {m : KeyMap α} :
    k ∈ keys (m.insert key value) ↔ k = key ∨ k ∈ keys m := by
  rw [← has_eq_true, ← has_eq_true, has, has, get?_insert]
  split_ifs with hk <;> simp [hk]

lemma mem_keys_foldl_insert {m : KeyMap α} :
    key ∈ keys (entries.foldl (fun m entry => m.insert entry.1 entry.2) m) ↔
      key ∈ entries.map Prod.fst ∨ key ∈ keys m := by
  induction entries generalizing m with
  | nil => simp
  | cons entry rest ih =>
    rw [List.foldl_cons, ih, mem_keys_insert, List.map_cons, List.mem_cons]
    tauto

lemma Ascending.insert {m : KeyMap α} (h : m.Ascending) (key : String) (value : α) :
    (m.insert key value).Ascending := by
  induction m with
  | nil => exact List.pairwise_singleton _ _
  | cons entry rest ih =>
    obtain ⟨k, v⟩ := entry
    obtain ⟨hk, hrest⟩ : (∀ k' ∈ keys rest, k < k') ∧ Ascending rest := List.pairwise_cons.mp h
    rw [KeyMap.insert]
    split
    · next heq =>
      subst heq
      exact h
    · next hne =>
      split
      · next hlt =>
        refine List.pairwise_cons.mpr ⟨fun k' hk' => ?_, h⟩
        rcases List.mem_cons.mp hk' with rfl | hk'
        · exact hlt
        · exact hlt.trans (hk k' hk')
      · next hnlt =>
        have hlt : k < key := lt_of_le_of_ne (not_lt.mp hnlt) (Ne.symm hne)
        refine List.pairwise_cons.mpr ⟨fun k' hk' => ?_, ih hrest⟩
        rcases mem_keys_insert.mp hk' with rfl | hk'
        · exact hlt
        · exact hk k' hk'

lemma ascending_ofEntries (entries : List (String × α)) : (ofEntries entries).Ascending := by
  have hfoldl : ∀ m : KeyMap α, m.Ascending →
      (entries.foldl (fun m entry => m.insert entry.1 entry.2) m).Ascending := by
    induction entries with
    | nil => exact fun m hm => hm
    | cons entry rest ih => exact fun m hm => ih _ (hm.insert entry.1 entry.2)
  exact hfoldl [] List.Pairwise.nil

end QueryLoom.KeyMap

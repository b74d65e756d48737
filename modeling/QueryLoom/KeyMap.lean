/-!
# Maps with text keys

A finite map is the list of its entries, ordered by key. The order of keys is the order of their
code points, which is also the order of their UTF-8 bytes, so the entries of a map come out in one
order however they were put in.
-/

namespace QueryLoom

/-- A finite map from text to `α`, as its entries in ascending order of keys. -/
abbrev KeyMap (α : Type) := List (String × α)

namespace KeyMap

variable {α β : Type}

/-- The value of a key. -/
def get? (key : String) : KeyMap α → Option α
  | [] => none
  | (k, v) :: rest => if key = k then some v else get? key rest

/-- Whether a key has a value. -/
def has (key : String) (m : KeyMap α) : Bool :=
  (get? key m).isSome

/-- Give a key a value, in place of the one it had. -/
def insert (key : String) (value : α) : KeyMap α → KeyMap α
  | [] => [(key, value)]
  | (k, v) :: rest =>
    if key = k then (key, value) :: rest
    else if key < k then (key, value) :: (k, v) :: rest
    else (k, v) :: insert key value rest

/-- Take a key out. -/
def erase (key : String) (m : KeyMap α) : KeyMap α :=
  m.filter fun entry => entry.1 ≠ key

/-- The keys in order. -/
def keys (m : KeyMap α) : List String :=
  m.map Prod.fst

/-- The map of a list of entries; of two values for one key the later counts. -/
def ofEntries (entries : List (String × α)) : KeyMap α :=
  entries.foldl (fun m entry => m.insert entry.1 entry.2) []

/-- Put every entry of `upper` into `m`. -/
def overlay (m upper : KeyMap α) : KeyMap α :=
  upper.foldl (fun acc entry => acc.insert entry.1 entry.2) m

/-- Change every value. -/
def mapValues (f : α → β) (m : KeyMap α) : KeyMap β :=
  m.map fun entry => (entry.1, f entry.2)

/-! ### Lookup after a change -/

@[simp] theorem get?_nil (key : String) : get? key ([] : KeyMap α) = none := rfl

@[simp] theorem get?_insert_self (key : String) (value : α) (m : KeyMap α) :
    get? key (insert key value m) = some value := by
  induction m with
  | nil => simp [insert, get?]
  | cons entry rest ih =>
    obtain ⟨k, v⟩ := entry
    simp only [insert]
    split
    · simp [get?]
    · split
      · simp [get?]
      · simp_all [get?]

theorem get?_insert_of_ne {key other : String} (h : other ≠ key) (value : α) (m : KeyMap α) :
    get? other (insert key value m) = get? other m := by
  induction m with
  | nil => simp [insert, get?, h]
  | cons entry rest ih =>
    obtain ⟨k, v⟩ := entry
    simp only [insert]
    split
    · subst_vars; simp [get?, h]
    · split
      · simp [get?, h]
      · simp [get?, ih]

theorem get?_insert (key other : String) (value : α) (m : KeyMap α) :
    get? other (insert key value m) = if other = key then some value else get? other m := by
  split
  · subst_vars; simp
  · exact get?_insert_of_ne ‹_› value m

theorem get?_erase (key other : String) (m : KeyMap α) :
    get? other (erase key m) = if other = key then none else get? other m := by
  induction m with
  | nil => simp [erase, get?]
  | cons entry rest ih =>
    obtain ⟨k, v⟩ := entry
    simp only [erase, List.filter_cons] at ih ⊢
    split <;> grind [get?]

end KeyMap

end QueryLoom

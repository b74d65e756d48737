import Mathlib.Data.List.Forall2
import QueryLoom.Condition.Eval
import QueryLoom.Scope

/-!
# Keys that are not read

A path whose every spelling begins with something other than a key leads to the same value whatever
the bag has under that key. So does an expression all of whose paths are like that.
-/

namespace QueryLoom

/-! ### Paths -/

/-- The path begins with a step other than the key. -/
def Path.Avoids (key : String) (path : Path) : Prop :=
  ∃ step rest, path = step :: rest ∧ step ≠ .key key

/-- Every spelling of the path that the text is begins with a step other than the key. -/
def AvoidsKey (key text : String) : Prop :=
  ∀ path ∈ Path.parse? text, ∀ spelling ∈ path.spellings, Path.Avoids key spelling

namespace Scope

/-- The frames over a bag with one more entry. -/
def atop (entries : KeyMap Json) (key : String) (value : Json) (s : Scope) : Scope :=
  { s with base := .object (entries.insert key value) }

variable {entries : KeyMap Json} {key : String}

lemma lookup?_atop {path : Path} (h : path.Avoids key) (value : Json) (s : Scope) :
    (s.atop entries key value).lookup? path = { s with base := .object entries }.lookup? path := by
  obtain ⟨step, rest, rfl, hstep⟩ := h
  cases step with
  | index n => rfl
  | key k =>
    have hk : k ≠ key := fun hk => hstep (by rw [hk])
    have hfollow : Path.PathStep.follow? (.key k) (.object (entries.insert key value))
        = Path.PathStep.follow? (.key k) (.object entries) :=
      KeyMap.get?_insert_of_ne hk value entries
    simp only [lookup?, atop, Path.walk?, hfollow]
    rfl

/-- A text that avoids the key does not show what the bag has under it. -/
lemma resolve?_atop {text : String} (h : AvoidsKey key text) (value : Json) (s : Scope) :
    (s.atop entries key value).resolve? text
      = { s with base := .object entries }.resolve? text := by
  unfold resolve?
  cases hparse : Path.parse? text with
  | none => rfl
  | some path =>
    have hall : ∀ p ∈ path.spellings, (s.atop entries key value).lookup? p
        = { s with base := .object entries }.lookup? p :=
      fun p hp => lookup?_atop (h path hparse p hp) value s
    simp only [Option.bind_some, Path.spellings, List.mem_cons, List.not_mem_nil, or_false,
      forall_eq_or_imp, forall_eq] at hall ⊢
    simp only [List.findSome?_cons, List.findSome?_nil, hall]

/-- The key itself leads to the value, unless a frame hides it. -/
lemma resolve?_over_key {text : String} (h : Path.parse? text = some [.key key]) (s : Scope) :
    (∃ hidden, ∀ value, (s.atop entries key value).resolve? text = some hidden) ∨
      ∀ value, (s.atop entries key value).resolve? text = some value := by
  have hlookup : ∀ value, (s.atop entries key value).resolve? text
      = (s.frames.findSome? (KeyMap.get? key)).or (some value) := by
    intro value
    have hbase : KeyMap.get? key (entries.insert key value) = some value :=
      KeyMap.get?_insert_self key value entries
    have hframes : (s.atop entries key value).frames = s.frames := rfl
    simp only [resolve?, h, Option.bind_some, Path.spellings, List.findSome?_cons, lookup?, hframes]
    cases s.frames.findSome? (KeyMap.get? key) with
    | some hidden => rfl
    | none => simp [atop, Path.walk?, Path.PathStep.follow?, hbase]
  cases hfind : s.frames.findSome? (KeyMap.get? key) with
  | some hidden => exact .inl ⟨hidden, fun value => by rw [hlookup, hfind, Option.some_or]⟩
  | none => exact .inr fun value => by rw [hlookup, hfind, Option.none_or]

end Scope

/-! ### Expressions -/

namespace Condition

/-- The texts that may be looked up for a path. -/
def pathLookups (path : String) : List String :=
  path :: match Text.stripLead? ".length".toList.reverse path.toList.reverse with
    | some start => [String.ofList start.reverse]
    | none => []

/-- The texts that may be looked up for an expression. -/
def Expr.lookups : Expr → List String
  | .literal _ => []
  | .path p => pathLookups p
  | .not e => e.lookups
  | .neg e => e.lookups
  | .and left right => left.lookups ++ right.lookups
  | .or left right => left.lookups ++ right.lookups
  | .binary _ left right => left.lookups ++ right.lookups

lemma valueOfPath_congr {lookup lookup' : String → Option Json} {path : String}
    (h : ∀ text ∈ pathLookups path, lookup text = lookup' text) :
    valueOfPath lookup path = valueOfPath lookup' path := by
  have hpath := h path List.mem_cons_self
  unfold valueOfPath
  rw [hpath]
  cases lookup' path with
  | some value => rfl
  | none =>
    cases hlead : Text.stripLead? ".length".toList.reverse path.toList.reverse with
    | none => rfl
    | some start =>
      have hmem : String.ofList start.reverse ∈ pathLookups path := by
        rw [pathLookups, hlead]
        exact List.mem_cons_of_mem _ (List.mem_singleton.mpr rfl)
      have hstart := h _ hmem
      simp only [hstart]

/-- The value of an expression depends on what is looked up for it. -/
lemma Expr.eval_congr {lookup lookup' : String → Option Json} (e : Expr)
    (h : ∀ text ∈ e.lookups, lookup text = lookup' text) : e.eval lookup = e.eval lookup' := by
  induction e with
  | literal value => rfl
  | path p => exact congrArg Except.ok (valueOfPath_congr h)
  | not e ih => simp only [eval, ih h]
  | neg e ih => simp only [eval, ih h]
  | and left right ihl ihr =>
    simp only [lookups, List.mem_append] at h
    simp only [eval, ihl fun t ht => h t (.inl ht), ihr fun t ht => h t (.inr ht)]
  | or left right ihl ihr =>
    simp only [lookups, List.mem_append] at h
    simp only [eval, ihl fun t ht => h t (.inl ht), ihr fun t ht => h t (.inr ht)]
  | binary operator left right ihl ihr =>
    simp only [lookups, List.mem_append] at h
    simp only [eval, ihl fun t ht => h t (.inl ht), ihr fun t ht => h t (.inr ht)]

end Condition

end QueryLoom

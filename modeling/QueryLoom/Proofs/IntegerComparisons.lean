import QueryLoom.Condition.Parser
import QueryLoom.Proofs.Doubles
import QueryLoom.Scope

/-!
# Comparisons of integers

Two integers are compared as the doubles nearest to them. Different integers with one nearest double
count as equal; there are none up to 53 binary digits.
-/

namespace QueryLoom.Condition

open Doubles Float.Model

variable {x y : Int}

/-! ### Comparisons of doubles -/

lemma floatOfInt_beq (hx : x.natAbs < 2 ^ 64) (hy : y.natAbs < 2 ^ 64) :
    (floatOfInt x == floatOfInt y) = (nearest x == nearest y) := by
  have hcompare := (standsFor_floatOfInt hx).compare (standsFor_floatOfInt hy)
  change ((floatOfInt x).toModel.unpack.compare (floatOfInt y).toModel.unpack == some .eq) = _
  rw [hcompare, Bool.eq_iff_iff, beq_iff_eq, beq_iff_eq, Option.some.injEq, compare_eq_iff_eq]

lemma decide_floatOfInt_lt (hx : x.natAbs < 2 ^ 64) (hy : y.natAbs < 2 ^ 64) :
    decide (floatOfInt x < floatOfInt y) = decide (nearest x < nearest y) := by
  have hcompare := (standsFor_floatOfInt hx).compare (standsFor_floatOfInt hy)
  have hlt : floatOfInt x < floatOfInt y ↔
      ((floatOfInt x).toModel.unpack.compare (floatOfInt y).toModel.unpack == some .lt) = true := by
    change decide ((floatOfInt x).toModel < (floatOfInt y).toModel) = true ↔ _
    rw [decide_eq_true_iff]
    rfl
  rw [decide_eq_decide, hlt, hcompare, beq_iff_eq, Option.some.injEq, compare_lt_iff_lt]

/-! ### Comparisons in expressions -/

/-- A comparison of two names, with its truth for two integers. -/
structure Comparison where
  source : String
  operator : Operator
  holds : Int → Int → Bool

/-- The six comparisons. -/
def allComparisons : List Comparison := [
  ⟨"a == b", .eq, fun x y => x == y⟩,
  ⟨"a != b", .ne, fun x y => x != y⟩,
  ⟨"a < b", .lt, fun x y => decide (x < y)⟩,
  ⟨"a <= b", .le, fun x y => decide (x ≤ y)⟩,
  ⟨"a > b", .gt, fun x y => decide (y < x)⟩,
  ⟨"a >= b", .ge, fun x y => decide (y ≤ x)⟩]

lemma forall_mem_allComparisons {P : Comparison → Prop} : (∀ c ∈ allComparisons, P c) ↔
    P ⟨"a == b", .eq, fun x y => x == y⟩ ∧ P ⟨"a != b", .ne, fun x y => x != y⟩ ∧
      P ⟨"a < b", .lt, fun x y => decide (x < y)⟩ ∧ P ⟨"a <= b", .le, fun x y => decide (x ≤ y)⟩ ∧
      P ⟨"a > b", .gt, fun x y => decide (y < x)⟩ ∧ P ⟨"a >= b", .ge, fun x y => decide (y ≤ x)⟩ := by
  simp only [allComparisons, List.forall_mem_cons, List.not_mem_nil, false_imp_iff, implies_true,
    and_true]

lemma parse_comparison : ∀ c ∈ allComparisons,
    Expr.parse c.source = .ok (.binary c.operator (.path "a") (.path "b")) := by
  refine forall_mem_allComparisons.mpr ⟨?_, ?_, ?_, ?_, ?_, ?_⟩ <;> cbv

/-- The operators compare the nearest doubles. -/
lemma apply_comparison (hx : x.natAbs < 2 ^ 64) (hy : y.natAbs < 2 ^ 64) : ∀ c ∈ allComparisons,
    c.operator.apply (.int x) (.int y) = .ok (.bool (c.holds (nearest x) (nearest y))) := by
  have heq : looselyEqual (.int x) (.int y) = (nearest x == nearest y) := floatOfInt_beq hx hy
  have hlt (operator : Operator) : ordered operator (.int x) (.int y) =
      operator.compares (floatOfInt x) (floatOfInt y) := rfl
  have hle {v w : Int} : (decide (v < w) || v == w) = decide (v ≤ w) := by
    rw [Bool.eq_iff_iff]
    simp [le_iff_lt_or_eq]
  refine forall_mem_allComparisons.mpr ⟨?_, ?_, ?_, ?_, ?_, ?_⟩ <;>
    simp only [Operator.apply, heq, hlt, Operator.compares, floatOfInt_beq hx hy,
      decide_floatOfInt_lt hx hy, decide_floatOfInt_lt hy hx, hle]
  · rfl
  · rw [Bool.beq_comm, hle]

/-- The truth of a comparison is lost only between different integers with one nearest double. -/
lemma holds_nearest_iff :
    (∀ c ∈ allComparisons, c.holds (nearest x) (nearest y) = c.holds x y) ↔
    (nearest x = nearest y → x = y) := by
  constructor
  · intro h hnearest
    have heq : (nearest x == nearest y) = (x == y) := (forall_mem_allComparisons.mp h).1
    rw [hnearest, beq_self_eq_true] at heq
    exact eq_of_beq heq.symm
  · intro h
    have heq : nearest x = nearest y ↔ x = y := ⟨h, congrArg nearest⟩
    have hlt : nearest x < nearest y ↔ x < y := nearest_lt_iff h
    have hgt : nearest y < nearest x ↔ y < x := nearest_lt_iff fun heq => (h heq.symm).symm
    have hle : nearest x ≤ nearest y ↔ x ≤ y := by rw [← not_lt, hgt, not_lt]
    have hge : nearest y ≤ nearest x ↔ y ≤ x := by rw [← not_lt, hlt, not_lt]
    refine forall_mem_allComparisons.mpr ⟨?_, ?_, ?_, ?_, ?_, ?_⟩ <;> rw [Bool.eq_iff_iff]
    · simp [heq]
    · simp [heq]
    · simp [hlt]
    · simp [hle]
    · simp [hgt]
    · simp [hge]

/-! ### Comparisons of what is in a bag -/

section Lookup

variable {lookup : String → Option Json}

lemma eval_comparison (hx : x.natAbs < 2 ^ 64) (hy : y.natAbs < 2 ^ 64)
    (ha : lookup "a" = some (.int x)) (hb : lookup "b" = some (.int y)) : ∀ c ∈ allComparisons,
    (Expr.parse c.source).bind (·.eval lookup) =
      .ok (.bool (c.holds (nearest x) (nearest y))) := by
  intro c hc
  have hvalue (p : String) (n : Int) (h : lookup p = some (.int n)) :
      valueOfPath lookup p = .int n := by rw [valueOfPath, h]
  rw [parse_comparison c hc]
  simp only [bind, Except.bind, Expr.eval, hvalue "a" x ha, hvalue "b" y hb,
    apply_comparison hx hy c hc]
  rfl

lemma test_comparison (hx : x.natAbs < 2 ^ 64) (hy : y.natAbs < 2 ^ 64)
    (ha : lookup "a" = some (.int x)) (hb : lookup "b" = some (.int y)) : ∀ c ∈ allComparisons,
    (Expr.parse c.source).bind (·.test lookup) = .ok (c.holds (nearest x) (nearest y)) := by
  intro c hc
  have heval := eval_comparison hx hy ha hb c hc
  rw [parse_comparison c hc] at heval ⊢
  change (Expr.eval lookup _).map isTrue = _
  change Expr.eval lookup _ = _ at heval
  rw [heval]
  rfl

end Lookup

lemma resolve?_name {entries : KeyMap Json} {name : String} {value : Json}
    (hname : name = "a" ∨ name = "b") (h : KeyMap.get? name entries = some value) :
    (Json.object entries).resolve? name = some value ∧
      (Scope.ofBag (.object entries)).resolve? name = some value := by
  have hpath : Path.parse? name = some [.key name] := by
    rcases hname with rfl | rfl <;> decide +kernel
  have hwalk : Path.walk? [.key name] (.object entries) = some value := by
    simp [Path.walk?, Path.PathStep.follow?, h]
  have hscope : (Scope.ofBag (.object entries)).lookup? [.key name] = some value := hwalk
  constructor
  · rw [Json.resolve?, hpath, Option.bind_some, Path.spellings, List.findSome?_cons, hwalk]
  · rw [Scope.resolve?, hpath, Option.bind_some, Path.spellings, List.findSome?_cons, hscope]

/-- A comparison of two integers of 64 bits in a bag gives the truth for their nearest doubles. So
all six give the truth for the integers themselves exactly if these are equal or have different
nearest doubles, as is so for at most 53 binary digits. -/
theorem comparisons_of_nearest {entries : KeyMap Json} {lookup : String → Option Json}
    (hlookup : lookup = (Json.object entries).resolve? ∨
      lookup = (Scope.ofBag (.object entries)).resolve?)
    (hx : -2 ^ 63 ≤ x ∧ x < 2 ^ 64) (hy : -2 ^ 63 ≤ y ∧ y < 2 ^ 64)
    (ha : KeyMap.get? "a" entries = some (.int x)) (hb : KeyMap.get? "b" entries = some (.int y)) :
    (∀ c ∈ allComparisons,
      (Expr.parse c.source).bind (·.eval lookup) =
          .ok (.bool (c.holds (nearest x) (nearest y))) ∧
        (Expr.parse c.source).bind (·.test lookup) = .ok (c.holds (nearest x) (nearest y))) ∧
      ((∀ c ∈ allComparisons,
          (Expr.parse c.source).bind (·.eval lookup) = .ok (.bool (c.holds x y))) ↔
        (nearest x = nearest y → x = y)) ∧
      (x.natAbs ≤ 2 ^ 53 → y.natAbs ≤ 2 ^ 53 → ∀ c ∈ allComparisons,
        (Expr.parse c.source).bind (·.eval lookup) = .ok (.bool (c.holds x y))) := by
  have hx' : x.natAbs < 2 ^ 64 := by omega
  have hy' : y.natAbs < 2 ^ 64 := by omega
  obtain ⟨ha, ha'⟩ := resolve?_name (.inl rfl) ha
  obtain ⟨hb, hb'⟩ := resolve?_name (.inr rfl) hb
  have hla : lookup "a" = some (.int x) := by rcases hlookup with rfl | rfl <;> assumption
  have hlb : lookup "b" = some (.int y) := by rcases hlookup with rfl | rfl <;> assumption
  have heval := eval_comparison hx' hy' hla hlb
  have hexact : (∀ c ∈ allComparisons, (Expr.parse c.source).bind (·.eval lookup) =
      .ok (.bool (c.holds x y))) ↔ (nearest x = nearest y → x = y) := by
    rw [← holds_nearest_iff]
    refine forall₂_congr fun c hc => ?_
    rw [heval c hc, Except.ok.injEq, Json.bool.injEq]
  refine ⟨fun c hc => ⟨heval c hc, test_comparison hx' hy' hla hlb c hc⟩, hexact, ?_⟩
  intro hx hy
  refine hexact.mpr fun h => ?_
  rwa [nearest_of_natAbs_le hx, nearest_of_natAbs_le hy] at h

/-- The largest integers with and without a sign have different nearest doubles. -/
theorem comparisons_of_nearest_large :
    let entries : KeyMap Json :=
      [("a", .int 18446744073709551615), ("b", .int (-9223372036854775808))]
    KeyMap.get? "a" entries = some (.int 18446744073709551615) ∧
      KeyMap.get? "b" entries = some (.int (-9223372036854775808)) ∧
      (Expr.parse "a > b").bind (·.eval (Json.object entries).resolve?) = .ok (.bool true) := by
  intro entries
  have ha : KeyMap.get? "a" entries = some (.int 18446744073709551615) := rfl
  have hb : KeyMap.get? "b" entries = some (.int (-9223372036854775808)) := rfl
  obtain ⟨-, hiff, -⟩ := comparisons_of_nearest (.inl rfl) (by decide) (by decide) ha hb
  have hnearest : nearest 18446744073709551615 ≠ nearest (-9223372036854775808) := by decide +kernel
  have hgt := (forall_mem_allComparisons.mp (hiff.mpr fun h => absurd h hnearest)).2.2.2.2.1
  exact ⟨ha, hb, hgt⟩

/-- Two neighbours of 54 binary digits count as equal. -/
theorem equal_of_neighbours :
    (Expr.parse "a == b").bind (·.eval
        (Json.object [("a", .int 9007199254740993), ("b", .int 9007199254740992)]).resolve?) =
      .ok (.bool true) ∧ (9007199254740993 : Int) ≠ 9007199254740992 := by
  refine ⟨?_, by decide⟩
  obtain ⟨ha, -⟩ := resolve?_name (.inl rfl)
    (rfl : KeyMap.get? "a" [("a", Json.int 9007199254740993), ("b", .int 9007199254740992)] = _)
  obtain ⟨hb, -⟩ := resolve?_name (.inr rfl)
    (rfl : KeyMap.get? "b" [("a", Json.int 9007199254740993), ("b", .int 9007199254740992)] = _)
  have hnearest : nearest 9007199254740993 = nearest 9007199254740992 := by decide +kernel
  have heval := (forall_mem_allComparisons.mp (eval_comparison (by decide) (by decide) ha hb)).1
  dsimp only at heval
  rwa [hnearest, beq_self_eq_true] at heval

end QueryLoom.Condition

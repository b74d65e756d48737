import Mathlib
import QueryLoom.Json.Value

/-!
# Equality of data values

Equality of values is symmetric and transitive. It is not reflexive only because of doubles that
are no numbers. The lemma on equal doubles comes with the whole of Mathlib only.
-/

namespace QueryLoom.Json

/-! ### Doubles -/

open Float.Model

lemma float_beq_iff (a b : Float) :
    (a == b) = true ↔ a.toModel.unpack.beq b.toModel.unpack = true := Iff.rfl

lemma float_beq_symm {a b : Float} (h : (a == b) = true) : (b == a) = true := by
  rw [float_beq_iff, UnpackedFloat.beq_iff_ne_notANumber_and_eq] at h ⊢
  obtain ⟨ha, hb, hab⟩ := h
  refine ⟨hb, ha, ?_⟩
  -- Either they are the same, or they are the two zeros.
  rcases hab with hab | ⟨ha, hb⟩ | ⟨ha, hb⟩
  · exact .inl hab.symm
  · exact .inr (.inr ⟨hb, ha⟩)
  · exact .inr (.inl ⟨hb, ha⟩)

lemma float_beq_trans {a b c : Float} (h : (a == b) = true) (h' : (b == c) = true) :
    (a == c) = true := by
  rw [float_beq_iff, UnpackedFloat.beq_iff_ne_notANumber_and_eq] at h h' ⊢
  obtain ⟨ha, -, hab⟩ := h
  obtain ⟨-, hc, hbc⟩ := h'
  refine ⟨ha, hc, ?_⟩
  rcases hab with hab | ⟨ha, hb⟩ | ⟨ha, hb⟩
  · rwa [hab]
  · rcases hbc with hbc | ⟨hb', -⟩ | ⟨-, hc⟩
    · exact .inr (.inl ⟨ha, hbc ▸ hb⟩)
    · simp [hb] at hb'
    · exact .inl (ha.trans hc.symm)
  · rcases hbc with hbc | ⟨-, hc⟩ | ⟨hb', -⟩
    · exact .inr (.inr ⟨ha, hbc ▸ hb⟩)
    · exact .inl (ha.trans hc.symm)
    · simp [hb] at hb'

/-! ### Values -/

mutual

theorem beq_symm {a b : Json} (h : beq a b = true) : beq b a = true := by
  match a, b with
  | .null, .null => rfl
  | .bool x, .bool y =>
    simp only [beq, beq_iff_eq] at h ⊢
    exact h.symm
  | .int x, .int y =>
    simp only [beq, beq_iff_eq] at h ⊢
    exact h.symm
  | .float x, .float y => exact float_beq_symm h
  | .string x, .string y =>
    simp only [beq, beq_iff_eq] at h ⊢
    exact h.symm
  | .array xs, .array ys => exact beqItems_symm h
  | .object xs, .object ys => exact beqEntries_symm h

theorem beqItems_symm {as bs : List Json} (h : beqItems as bs = true) :
    beqItems bs as = true := by
  match as, bs with
  | [], [] => rfl
  | a :: as, b :: bs =>
    rw [beqItems, Bool.and_eq_true] at h ⊢
    exact ⟨beq_symm h.1, beqItems_symm h.2⟩

theorem beqEntries_symm {as bs : List (String × Json)} (h : beqEntries as bs = true) :
    beqEntries bs as = true := by
  match as, bs with
  | [], [] => rfl
  | (k, a) :: as, (l, b) :: bs =>
    simp only [beqEntries, Bool.and_eq_true, beq_iff_eq] at h ⊢
    exact ⟨⟨h.1.1.symm, beq_symm h.1.2⟩, beqEntries_symm h.2⟩

end

mutual

theorem beq_trans {a b c : Json} (h : beq a b = true) (h' : beq b c = true) :
    beq a c = true := by
  match a, b, c with
  | .null, .null, .null => rfl
  | .bool x, .bool y, .bool z =>
    simp only [beq, beq_iff_eq] at h h' ⊢
    exact h.trans h'
  | .int x, .int y, .int z =>
    simp only [beq, beq_iff_eq] at h h' ⊢
    exact h.trans h'
  | .float x, .float y, .float z => exact float_beq_trans h h'
  | .string x, .string y, .string z =>
    simp only [beq, beq_iff_eq] at h h' ⊢
    exact h.trans h'
  | .array xs, .array ys, .array zs => exact beqItems_trans h h'
  | .object xs, .object ys, .object zs => exact beqEntries_trans h h'

theorem beqItems_trans {as bs cs : List Json} (h : beqItems as bs = true)
    (h' : beqItems bs cs = true) : beqItems as cs = true := by
  match as, bs, cs with
  | [], [], [] => rfl
  | a :: as, b :: bs, c :: cs =>
    rw [beqItems, Bool.and_eq_true] at h h' ⊢
    exact ⟨beq_trans h.1 h'.1, beqItems_trans h.2 h'.2⟩

theorem beqEntries_trans {as bs cs : List (String × Json)} (h : beqEntries as bs = true)
    (h' : beqEntries bs cs = true) : beqEntries as cs = true := by
  match as, bs, cs with
  | [], [], [] => rfl
  | (k, a) :: as, (l, b) :: bs, (m, c) :: cs =>
    simp only [beqEntries, Bool.and_eq_true, beq_iff_eq] at h h' ⊢
    exact ⟨⟨h.1.1.trans h'.1.1, beq_trans h.1.2 h'.1.2⟩, beqEntries_trans h.2 h'.2⟩

end

end QueryLoom.Json

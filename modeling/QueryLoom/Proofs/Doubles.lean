import Mathlib
import QueryLoom.Condition.Eval

/-!
# Doubles of integers

An integer keeps its 53 leading binary digits when it becomes a double. What is left over is rounded
to the nearest, and half way to an even last digit. Doubles of integers are in the order of the
rounded integers. The lemmas on the bits of a double come with the whole of Mathlib only.
-/

namespace QueryLoom.Doubles

open Float.Model Float.Model.UnpackedFloat

/-! ### Rounding half way to even -/

/-- The quotient rounded to the nearest number, half way to the even one. -/
def halfEven (num den : Nat) : Nat :=
  if 2 * (num % den) < den ∨ 2 * (num % den) = den ∧ num / den % 2 = 0 then num / den
  else num / den + 1

/-- No number is nearer to the quotient, and if another one is as near, this one is even. -/
structure IsHalfEven (num den r : Nat) : Prop where
  upper : 2 * (r * den) ≤ 2 * num + den
  lower : 2 * num ≤ 2 * (r * den) + den
  even : 2 * (r * den) = 2 * num + den ∨ 2 * num = 2 * (r * den) + den → r % 2 = 0

lemma isHalfEven_halfEven (num : Nat) {den : Nat} (hden : 0 < den) :
    IsHalfEven num den (halfEven num den) := by
  have hmod := Nat.mod_lt num hden
  have hdiv := Nat.div_add_mod num den
  rw [Nat.mul_comm] at hdiv
  unfold halfEven
  split
  · next hdown => exact ⟨by omega, by omega, by omega⟩
  · next hup =>
    rw [not_or, not_and] at hup
    have hnext : (num / den + 1) * den = num / den * den + den := Nat.succ_mul _ _
    exact ⟨by omega, by omega, by omega⟩

lemma IsHalfEven.le {num num' den r r' : Nat} (hden : 0 < den) (h : IsHalfEven num den r)
    (h' : IsHalfEven num' den r') (hle : num ≤ num') : r ≤ r' := by
  by_contra hlt
  obtain ⟨d, rfl⟩ := Nat.exists_eq_add_of_lt (not_le.mp hlt)
  have hsum : (r' + d + 1) * den = r' * den + d * den + den := by ring
  have hupper := h.upper
  have hlower := h'.lower
  have heven := h.even
  have heven' := h'.even
  rw [hsum] at hupper heven
  -- the two are neighbours of the same midpoint, and not both are even
  have hd : d * den = 0 := by omega
  obtain rfl : d = 0 := (Nat.mul_eq_zero.mp hd).resolve_right hden.ne'
  omega

lemma IsHalfEven.unique {num den r r' : Nat} (hden : 0 < den) (h : IsHalfEven num den r)
    (h' : IsHalfEven num den r') : r = r' :=
  Nat.le_antisymm (h.le hden h' le_rfl) (h'.le hden h le_rfl)

lemma halfEven_le_halfEven {num num' den : Nat} (hden : 0 < den) (h : num ≤ num') :
    halfEven num den ≤ halfEven num' den :=
  (isHalfEven_halfEven num hden).le hden (isHalfEven_halfEven num' hden) h

/-- A multiple is not rounded. -/
lemma halfEven_mul_self (r : Nat) {den : Nat} (hden : 0 < den) : halfEven (r * den) den = r :=
  (isHalfEven_halfEven _ hden).unique hden ⟨by omega, by omega, by omega⟩

lemma halfEven_mul_right (num : Nat) {den c : Nat} (hden : 0 < den) (hc : 0 < c) :
    halfEven (num * c) (den * c) = halfEven num den := by
  have h := isHalfEven_halfEven num hden
  refine (isHalfEven_halfEven _ (Nat.mul_pos hden hc)).unique (Nat.mul_pos hden hc) ⟨?_, ?_, ?_⟩
  · nlinarith [h.upper]
  · nlinarith [h.lower]
  · rintro (heq | heq)
    · refine h.even (.inl ?_)
      exact Nat.eq_of_mul_eq_mul_right hc (by nlinarith)
    · refine h.even (.inr ?_)
      exact Nat.eq_of_mul_eq_mul_right hc (by nlinarith)

/-! ### The nearest double of a natural number -/

/-- The distance of doubles near a natural number, which is one up to 53 binary digits. -/
def spacing (n : Nat) : Nat := 2 ^ (n.log2 - 52)

/-- The natural number of the double nearest to a natural number: its 53 leading binary digits,
rounded half way to even. -/
def nearestNat (n : Nat) : Nat := halfEven n (spacing n) * spacing n

lemma spacing_pos (n : Nat) : 0 < spacing n := Nat.two_pow_pos _

lemma nearestNat_of_lt {n : Nat} (h : n < 2 ^ 53) : nearestNat n = n := by
  have hlog : n.log2 ≤ 52 := by
    by_cases hn : n = 0
    · simp [hn]
    · exact Nat.lt_succ_iff.mp ((Nat.log2_lt hn).mpr h)
  have hspacing : spacing n = 1 := by
    rw [spacing, Nat.sub_eq_zero_of_le hlog, Nat.pow_zero]
  have hround := halfEven_mul_self n Nat.one_pos
  rw [Nat.mul_one] at hround
  rw [nearestNat, hspacing, hround, Nat.mul_one]

lemma nearestNat_le_of_le_mul {n q : Nat} (h : n ≤ q * spacing n) :
    nearestNat n ≤ q * spacing n := by
  have hround := halfEven_le_halfEven (spacing_pos n) h
  rw [halfEven_mul_self q (spacing_pos n)] at hround
  exact Nat.mul_le_mul_right _ hround

lemma le_nearestNat_of_mul_le {n q : Nat} (h : q * spacing n ≤ n) :
    q * spacing n ≤ nearestNat n := by
  have hround := halfEven_le_halfEven (spacing_pos n) h
  rw [halfEven_mul_self q (spacing_pos n)] at hround
  exact Nat.mul_le_mul_right _ hround

lemma exists_mul_spacing {n k : Nat} (h : n.log2 ≤ k) : ∃ q, q * spacing n = 2 ^ k :=
  (exists_eq_mul_left_of_dvd (pow_dvd_pow 2 ((Nat.sub_le _ 52).trans h))).imp fun _ h => h.symm

lemma nearestNat_le_two_pow {n k : Nat} (h : n ≤ 2 ^ k) : nearestNat n ≤ 2 ^ k := by
  have hlog : n.log2 ≤ k := by
    by_contra hlt
    have hn : n ≠ 0 := by
      rintro rfl
      simp at hlt
    have hpow : 2 ^ (k + 1) ≤ 2 ^ n.log2 := Nat.pow_le_pow_right Nat.two_pos (by omega)
    have hself := Nat.log2_self_le hn
    rw [pow_succ] at hpow
    have hpos := Nat.two_pow_pos k
    omega
  obtain ⟨q, hq⟩ := exists_mul_spacing hlog
  rw [← hq] at h ⊢
  exact nearestNat_le_of_le_mul h

lemma two_pow_log2_le_nearestNat {n : Nat} (hn : n ≠ 0) : 2 ^ n.log2 ≤ nearestNat n := by
  obtain ⟨q, hq⟩ := exists_mul_spacing (le_refl n.log2)
  have hself := Nat.log2_self_le hn
  rw [← hq] at hself ⊢
  exact le_nearestNat_of_mul_le hself

/-- The nearest doubles are in the same order, but may coincide. -/
lemma nearestNat_mono {n m : Nat} (h : n ≤ m) : nearestNat n ≤ nearestNat m := by
  by_cases hn : n = 0
  · subst hn
    exact Nat.zero_le _
  have hm : m ≠ 0 := by omega
  have hlog : n.log2 ≤ m.log2 := (Nat.le_log2 hm).mpr ((Nat.log2_self_le hn).trans h)
  rcases Nat.lt_or_eq_of_le hlog with hlt | heq
  · -- a power of two lies between the two
    calc nearestNat n ≤ 2 ^ (n.log2 + 1) := nearestNat_le_two_pow Nat.lt_log2_self.le
      _ ≤ 2 ^ m.log2 := Nat.pow_le_pow_right Nat.two_pos hlt
      _ ≤ nearestNat m := two_pow_log2_le_nearestNat hm
  · have hspacing : spacing n = spacing m := by rw [spacing, spacing, heq]
    rw [nearestNat, nearestNat, ← hspacing]
    exact Nat.mul_le_mul_right _ (halfEven_le_halfEven (spacing_pos n) h)

lemma nearestNat_of_le {n : Nat} (h : n ≤ 2 ^ 53) : nearestNat n = n := by
  rcases Nat.lt_or_eq_of_le h with hlt | rfl
  · exact nearestNat_of_lt hlt
  · have hlow := two_pow_log2_le_nearestNat (n := 2 ^ 53) (by decide)
    rw [Nat.log2_two_pow] at hlow
    exact le_antisymm (nearestNat_le_two_pow le_rfl) hlow

/-! ### Residual bits -/

/-- A mantissa is a quotient rounded down, and its residual bits tell how the remainder compares
with half the divisor. -/
structure Describes (em : ExtendedMantissa) (num den : Nat) : Prop where
  mantissa : em.mantissa = num / den
  roundBit : em.roundBit = true ↔ den ≤ 2 * (num % den)
  stickyBit : em.stickyBit = true ↔ 2 * (num % den) ≠ 0 ∧ 2 * (num % den) ≠ den

lemma describes_exact (m : Nat) : Describes ⟨m, false, false⟩ m 1 :=
  ⟨(Nat.div_one m).symm, by simp [Nat.mod_one], by simp [Nat.mod_one]⟩

/-- A shift doubles the divisor. -/
lemma Describes.shiftRightOne {em : ExtendedMantissa} {num den : Nat} (hden : 0 < den)
    (h : Describes em num den) : Describes em.shiftRightOne num (den * 2) := by
  have hrest := Nat.mod_lt num hden
  have hmod : num % (den * 2) = num % den + den * (num / den % 2) := Nat.mod_mul
  have hbit := Nat.mod_two_eq_zero_or_one (num / den)
  refine ⟨?_, ?_, ?_⟩
  · simp [ExtendedMantissa.shiftRightOne, h.mantissa, Nat.div_div_eq_div_mul]
  · rcases hbit with hbit | hbit <;>
      simp only [ExtendedMantissa.shiftRightOne, h.mantissa, hmod, hbit] <;> simp <;> omega
  · simp only [ExtendedMantissa.shiftRightOne, Bool.or_eq_true, h.roundBit, h.stickyBit]
    rcases hbit with hbit | hbit <;> rw [hmod, hbit] <;> omega

lemma Describes.shiftRight {em : ExtendedMantissa} {num den : Nat} (hden : 0 < den)
    (h : Describes em num den) (k : Nat) : Describes (em >>> k) num (den * 2 ^ k) := by
  induction k with
  | zero => exact (Nat.mul_one den).symm ▸ h
  | succ k ih =>
    rw [pow_succ, ← mul_assoc]
    exact ih.shiftRightOne (Nat.mul_pos hden (Nat.two_pow_pos k))

lemma Describes.roundedMantissa {em : ExtendedMantissa} {num den : Nat} (hden : 0 < den)
    (h : Describes em num den) : em.roundedMantissa = halfEven num den := by
  have hrest := Nat.mod_lt num hden
  obtain ⟨hm, hround, hsticky⟩ := h
  obtain ⟨m, round, sticky⟩ := em
  dsimp only at hm hround hsticky
  subst hm
  cases round <;> cases sticky <;>
    simp only [Bool.false_eq_true, false_iff, true_iff] at hround hsticky <;>
    simp only [ExtendedMantissa.roundedMantissa, ExtendedMantissa.accuracy,
      Accuracy.roundToNearestEven, halfEven] <;> split <;> omega

/-! ### Rounding a mantissa -/

/-- A mantissa is shifted until 53 binary digits are left. -/
lemma shiftToTargetExponent_exact (m : Nat) {e : Int} (he : -1074 ≤ e) :
    shiftToTargetExponent .binary64 m e .exact =
      ((⟨m, false, false⟩ : ExtendedMantissa) >>> (m.log2 - 52), e + (m.log2 - 52 : Nat)) := by
  have hshift : (Format.binary64.targetExponent (totalExponent m e) - e).toNat = m.log2 - 52 := by
    simp only [Format.targetExponent, totalExponent, Format.mantissaBits, Format.minExponent]
    omega
  rw [shiftToTargetExponent, shiftToExponent, hshift]
  rfl

lemma pow_log2_eq {m : Nat} (hm : 2 ^ 52 ≤ m) : 2 ^ m.log2 = 2 ^ 52 * spacing m := by
  have hlog : 52 ≤ m.log2 := (Nat.le_log2 (by omega)).mpr hm
  rw [spacing, ← pow_add]
  congr 1
  omega

/-- The digits that are left are 53, or one more if the rounding carried. -/
lemma halfEven_spacing_bounds {m : Nat} (hm : 2 ^ 52 ≤ m) :
    2 ^ 52 ≤ halfEven m (spacing m) ∧ halfEven m (spacing m) ≤ 2 ^ 53 := by
  have hpos := spacing_pos m
  have hlow : 2 ^ 52 * spacing m ≤ m := pow_log2_eq hm ▸ Nat.log2_self_le (by omega)
  have hhigh : m ≤ 2 ^ 53 * spacing m := by
    have hlt := Nat.lt_log2_self (n := m)
    rw [pow_succ, pow_log2_eq hm] at hlt
    omega
  have hlow := halfEven_le_halfEven hpos hlow
  have hhigh := halfEven_le_halfEven hpos hhigh
  rw [halfEven_mul_self _ hpos] at hlow hhigh
  exact ⟨hlow, hhigh⟩

/-- A carried digit is shifted out again. -/
lemma carry_eq {r : Nat} (hlow : 2 ^ 52 ≤ r) (hhigh : r ≤ 2 ^ 53) :
    2 ^ 52 ≤ r / spacing r ∧ r / spacing r < 2 ^ 53 ∧ r / spacing r * spacing r = r := by
  by_cases hcarry : r = 2 ^ 53
  · have hspacing : spacing (2 ^ 53) = 2 := by
      rw [spacing, Nat.log2_two_pow]
      rfl
    rw [hcarry, hspacing]
    decide
  · have hlt : r < 2 ^ 53 := lt_of_le_of_ne hhigh hcarry
    have hspacing : spacing r = 1 := by
      have hlog : r.log2 < 53 := (Nat.log2_lt (by omega)).mpr hlt
      rw [spacing, Nat.sub_eq_zero_of_le (by omega), Nat.pow_zero]
    rw [hspacing, Nat.div_one, Nat.mul_one]
    exact ⟨hlow, hlt, rfl⟩

/-- A number with at least 53 binary digits is rounded to 53 of them. -/
lemma exists_roundWithAccuracy (s : Sign) {m : Nat} {e : Int} (hm : 2 ^ 52 ≤ m) (he : -1074 ≤ e) :
    ∃ (m' k : Nat) (hpos : 0 < m'),
      roundWithAccuracy .binary64 s m e .exact = .finite s m' (e + k) hpos ∧
      2 ^ 52 ≤ m' ∧ m' < 2 ^ 53 ∧ m' * 2 ^ k = nearestNat m := by
  obtain ⟨hlow, hhigh⟩ := halfEven_spacing_bounds hm
  have hround : ((⟨m, false, false⟩ : ExtendedMantissa) >>> (m.log2 - 52)).roundedMantissa =
      halfEven m (spacing m) := by
    have h := (describes_exact m).shiftRight Nat.one_pos (m.log2 - 52)
    rw [Nat.one_mul] at h
    exact h.roundedMantissa (spacing_pos m)
  generalize hr : halfEven m (spacing m) = r at hlow hhigh hround
  obtain ⟨hlow', hhigh', hcarry⟩ := carry_eq hlow hhigh
  have hmantissa : ((⟨r, false, false⟩ : ExtendedMantissa) >>> (r.log2 - 52)).mantissa =
      r / spacing r := by
    have h := (describes_exact r).shiftRight Nat.one_pos (r.log2 - 52)
    rw [Nat.one_mul] at h
    exact h.mantissa
  refine ⟨r / spacing r, m.log2 - 52 + (r.log2 - 52), by omega, ?_, hlow', hhigh', ?_⟩
  · rw [roundWithAccuracy, shiftToTargetExponent_exact m he]
    dsimp only
    rw [hround, shiftToTargetExponent_exact r (by omega)]
    dsimp only
    rw [dif_neg (by omega)]
    simp only [hmantissa, Nat.cast_add, add_assoc]
  · rw [pow_add, mul_comm (2 ^ (m.log2 - 52)), ← mul_assoc]
    change r / spacing r * spacing r * spacing m = _
    rw [hcarry, nearestNat, hr]

/-! ### Canonical doubles -/

lemma compare_eq_compare {α β : Type} [LinearOrder α] [LinearOrder β] {a b : α} {c d : β}
    (hlt : a < b ↔ c < d) (hgt : b < a ↔ d < c) : compare a b = compare c d := by
  rcases lt_trichotomy a b with h | h | h
  · rw [compare_lt_iff_lt.mpr h, compare_lt_iff_lt.mpr (hlt.mp h)]
  · have hcd : c = d := le_antisymm (not_lt.mp (hgt.not.mp h.not_gt))
      (not_lt.mp (hlt.not.mp h.not_lt))
    rw [compare_eq_iff_eq.mpr h, compare_eq_iff_eq.mpr hcd]
  · rw [compare_gt_iff_gt.mpr h, compare_gt_iff_gt.mpr (hgt.mp h)]

/-- Numbers of 53 binary digits at a scale are ordered by the scale first. -/
lemma compare_scaled {m m' : Nat} (k k' : Nat) (hm : 2 ^ 52 ≤ m) (hlt : m < 2 ^ 53)
    (hm' : 2 ^ 52 ≤ m') (hlt' : m' < 2 ^ 53) :
    (compare k k').then (compare m m') = compare (m * 2 ^ k) (m' * 2 ^ k') := by
  have hless {a b i j : Nat} (ha : a < 2 ^ 53) (hb : 2 ^ 52 ≤ b) (hij : i < j) :
      a * 2 ^ i < b * 2 ^ j := by
    calc a * 2 ^ i < 2 ^ 53 * 2 ^ i := Nat.mul_lt_mul_of_pos_right ha (Nat.two_pow_pos i)
      _ = 2 ^ 52 * 2 ^ (i + 1) := by ring
      _ ≤ b * 2 ^ j := Nat.mul_le_mul hb (Nat.pow_le_pow_right Nat.two_pos hij)
  rcases lt_trichotomy k k' with hk | rfl | hk
  · rw [compare_lt_iff_lt.mpr hk, compare_lt_iff_lt.mpr (hless hlt hm' hk)]
    rfl
  · have hpos := Nat.two_pow_pos k
    rw [compare_eq_iff_eq.mpr rfl, Ordering.then]
    exact compare_eq_compare (Nat.mul_lt_mul_right hpos).symm (Nat.mul_lt_mul_right hpos).symm
  · rw [compare_gt_iff_gt.mpr hk, compare_gt_iff_gt.mpr (hless hlt' hm hk)]
    rfl

lemma eq_of_scaled {m m' k k' : Nat} (hm : 2 ^ 52 ≤ m) (hlt : m < 2 ^ 53) (hm' : 2 ^ 52 ≤ m')
    (hlt' : m' < 2 ^ 53) (h : m * 2 ^ k = m' * 2 ^ k') : m = m' ∧ k = k' := by
  have hcompare := compare_scaled k k' hm hlt hm' hlt'
  rw [h, compare_eq_iff_eq.mpr rfl, Ordering.then_eq_eq] at hcompare
  exact ⟨compare_eq_iff_eq.mp hcompare.2, compare_eq_iff_eq.mp hcompare.1⟩

/-- A normal number is read back as it was packed. -/
lemma unpack_pack (s : Sign) {m : Nat} {e : Int} (hpos : 0 < m) (hm : 2 ^ 52 ≤ m)
    (hlt : m < 2 ^ 53) (he : -1074 ≤ e) (he' : e ≤ 971) :
    (Float.Model.pack (.finite s m e hpos)).unpack = .finite s m e hpos := by
  have hlog : m.log2 + 1 = Format.binary64.mantissaBits := by
    rw [(Nat.log2_eq_iff (by omega)).mpr ⟨hm, hlt⟩]
    rfl
  obtain ⟨b, hb⟩ : ∃ b : Nat, (b : Int) = e + 1075 := ⟨(e + 1075).toNat, by omega⟩
  have hbits : (BitVec.ofNat 11 b).toNat = b := by
    rw [BitVec.toNat_ofNat, Nat.mod_eq_of_lt (by omega)]
  have hzero : BitVec.ofNat 11 b ≠ 0#11 := by
    intro h
    rw [h] at hbits
    simp at hbits
    omega
  have hones : BitVec.ofNat 11 b ≠ -1#11 := by
    intro h
    rw [h] at hbits
    simp at hbits
    omega
  have hmantissa : (1#1 ++ BitVec.ofNat 52 m).toNat = m := by
    rw [BitVec.toNat_append, ← Nat.shiftLeft_add_eq_or_of_lt (BitVec.isLt _), BitVec.toNat_ofNat]
    simp only [BitVec.toNat_ofNat, Nat.shiftLeft_eq]
    omega
  have hbias : Format.binary64.exponentBias = 1023 := rfl
  have hexponent : (e + (Format.binary64.exponentBias : Int) +
      (Format.binary64.mantissaBitsWithoutImplicit : Int)).toNat = b := by
    rw [hbias]
    dsimp only [Format.binary64]
    omega
  have hpack : UnpackedFloat.pack .binary64 (.finite s m e hpos) =
      packComponents .binary64 s (BitVec.ofNat 11 b) (BitVec.ofNat 52 m) := by
    simp only [UnpackedFloat.pack, hexponent]
    rw [if_neg (by omega), if_pos hlog]
  change UnpackedFloat.unpack .binary64 (UnpackedFloat.pack .binary64 _) = _
  rw [hpack]
  simp only [UnpackedFloat.unpack, unpackExponent_packComponents, unpackMantissa_packComponents,
    unpackSign_packComponents, Sign.ofBitVec_toBitVec]
  rw [if_neg hones, if_neg hzero, finite.injEq, hbits, hbias]
  exact ⟨rfl, hmantissa, by omega⟩

/-! ### Doubles that stand for integers -/

/-- A double with the value of an integer: a zero, or 53 binary digits at a scale. -/
def StandsFor (v : Int) : UnpackedFloat → Prop
  | .zero _ => v = 0
  | .finite s m e _ =>
    2 ^ 52 ≤ m ∧ m < 2 ^ 53 ∧
      ∃ k : Nat, e = k - 52 ∧ v * 2 ^ 52 = s.apply ((m * 2 ^ k : Nat) : Int)
  | _ => False

lemma StandsFor.neg {v : Int} {u : UnpackedFloat} (h : StandsFor v u) : StandsFor (-v) u.neg := by
  cases u with
  | zero s => exact Int.neg_eq_zero.mpr h
  | finite s m e hpos =>
    obtain ⟨hm, hlt, k, he, hv⟩ := h
    refine ⟨hm, hlt, k, he, ?_⟩
    rw [Int.neg_mul, hv]
    cases s
    · exact Int.neg_neg _
    · rfl
  | _ => exact h.elim

lemma StandsFor.pos {v : Int} {m : Nat} {e : Int} {hpos : 0 < m}
    (h : StandsFor v (.finite .positive m e hpos)) : 0 < v := by
  obtain ⟨-, -, k, -, hv⟩ := h
  have hscaled : 0 < m * 2 ^ k := Nat.mul_pos hpos (Nat.two_pow_pos k)
  change v * 2 ^ 52 = ((m * 2 ^ k : Nat) : Int) at hv
  omega

lemma StandsFor.neg_of_negative {v : Int} {m : Nat} {e : Int} {hpos : 0 < m}
    (h : StandsFor v (.finite .negative m e hpos)) : v < 0 := by
  have hneg : StandsFor (-v) (.finite .positive m e hpos) := h.neg
  exact Int.neg_pos.mp hneg.pos

/-- Positive doubles are compared as the integers they stand for. -/
lemma StandsFor.compare_positive {v w : Int} {m m' : Nat} {e e' : Int} {hpos : 0 < m}
    {hpos' : 0 < m'} (h : StandsFor v (.finite .positive m e hpos))
    (h' : StandsFor w (.finite .positive m' e' hpos')) :
    (Ord.compare e e').then (Ord.compare m m') = Ord.compare v w := by
  obtain ⟨hm, hlt, k, rfl, hv⟩ := h
  obtain ⟨hm', hlt', k', rfl, hw⟩ := h'
  have hexponents : Ord.compare ((k : Int) - 52) ((k' : Int) - 52) = Ord.compare k k' :=
    compare_eq_compare (by omega) (by omega)
  rw [hexponents, compare_scaled k k' hm hlt hm' hlt']
  change v * 2 ^ 52 = ((m * 2 ^ k : Nat) : Int) at hv
  change w * 2 ^ 52 = ((m' * 2 ^ k' : Nat) : Int) at hw
  exact compare_eq_compare (by omega) (by omega)

/-- A double that stands for no large integer is read back as it was packed. -/
lemma StandsFor.unpack_pack {v : Int} {u : UnpackedFloat} (h : StandsFor v u)
    (hv : v.natAbs ≤ 2 ^ 64) : (Float.Model.pack u).unpack = u := by
  cases u with
  | zero s => exact unpack_packedZero
  | finite s m e hpos =>
    obtain ⟨hm, hlt, k, rfl, hvalue⟩ := h
    have habs : v.natAbs * 2 ^ 52 = m * 2 ^ k := by
      have hnat := congrArg Int.natAbs hvalue
      rw [Int.natAbs_mul] at hnat
      cases s
      · exact hnat.trans (Int.natAbs_neg _)
      · exact hnat
    have hk : k ≤ 64 := by
      refine (Nat.pow_le_pow_iff_right Nat.one_lt_two).mp ?_
      refine Nat.le_of_mul_le_mul_left ?_ (Nat.two_pow_pos 52)
      calc 2 ^ 52 * 2 ^ k ≤ m * 2 ^ k := Nat.mul_le_mul_right _ hm
        _ = v.natAbs * 2 ^ 52 := habs.symm
        _ ≤ 2 ^ 64 * 2 ^ 52 := Nat.mul_le_mul_right _ hv
        _ = 2 ^ 52 * 2 ^ 64 := Nat.mul_comm _ _
    exact Doubles.unpack_pack s hpos hm hlt (by omega) (by omega)
  | _ => exact h.elim

/-- Doubles are compared as the integers they stand for. -/
lemma StandsFor.compare {v w : Int} {u u' : UnpackedFloat} (h : StandsFor v u)
    (h' : StandsFor w u') : u.compare u' = some (Ord.compare v w) := by
  cases u with
  | zero s =>
    obtain rfl : v = 0 := h
    cases u' with
    | zero s' =>
      obtain rfl : w = 0 := h'
      rfl
    | finite s' m' e' hpos' =>
      cases s' with
      | positive => exact congrArg some (compare_lt_iff_lt.mpr h'.pos).symm
      | negative => exact congrArg some (compare_gt_iff_gt.mpr h'.neg_of_negative).symm
    | _ => exact h'.elim
  | finite s m e hpos =>
    cases u' with
    | zero s' =>
      obtain rfl : w = 0 := h'
      cases s with
      | positive => exact congrArg some (compare_gt_iff_gt.mpr h.pos).symm
      | negative => exact congrArg some (compare_lt_iff_lt.mpr h.neg_of_negative).symm
    | finite s' m' e' hpos' =>
      cases s with
      | positive =>
        cases s' with
        | positive => exact congrArg some (h.compare_positive h')
        | negative =>
          exact congrArg some (compare_gt_iff_gt.mpr (h'.neg_of_negative.trans h.pos)).symm
      | negative =>
        cases s' with
        | positive =>
          exact congrArg some (compare_lt_iff_lt.mpr (h.neg_of_negative.trans h'.pos)).symm
        | negative =>
          have hcompare := StandsFor.compare_positive (v := -v) (w := -w) h.neg h'.neg
          have hswap : Ord.compare (-v) (-w) = (Ord.compare v w).swap := by
            rw [← Std.OrientedOrd.eq_swap]
            exact compare_eq_compare neg_lt_neg_iff neg_lt_neg_iff
          rw [hswap] at hcompare
          exact congrArg some (by rw [hcompare, Ordering.swap_swap])
    | _ => exact h'.elim
  | _ => exact h.elim

/-! ### Conversion -/

lemma nearestNat_mul_two_pow {n : Nat} (hn : 2 ^ 52 ≤ n) (c : Nat) :
    nearestNat (n * 2 ^ c) = nearestNat n * 2 ^ c := by
  have hspacing : spacing (n * 2 ^ c) = spacing n * 2 ^ c := by
    have hlog : (n * 2 ^ c).log2 = n.log2 + c := by
      have hpos := Nat.two_pow_pos c
      refine (Nat.log2_eq_iff (by positivity)).mpr ⟨?_, ?_⟩
      · rw [pow_add]
        exact Nat.mul_le_mul_right _ (Nat.log2_self_le (by omega))
      · rw [add_right_comm, pow_add]
        exact Nat.mul_lt_mul_of_pos_right Nat.lt_log2_self hpos
    have hlow : 52 ≤ n.log2 := (Nat.le_log2 (by omega)).mpr hn
    rw [spacing, spacing, hlog, ← pow_add]
    congr 1
    omega
  rw [nearestNat, hspacing, halfEven_mul_right n (spacing_pos n) (Nat.two_pow_pos c), nearestNat,
    mul_assoc]

/-- Rounded, a scaled natural number has the value of the nearest one. -/
lemma exists_round {n c : Nat} (hn : 2 ^ 52 ≤ n * 2 ^ c) (hc : c ≤ 1074)
    (hnearest : nearestNat (n * 2 ^ c) = nearestNat n * 2 ^ c) :
    ∃ (m : Nat) (e : Int) (hpos : 0 < m),
      roundWithAccuracy .binary64 .positive (n * 2 ^ c) (-c) .exact = .finite .positive m e hpos ∧
      StandsFor (nearestNat n) (.finite .positive m e hpos) := by
  obtain ⟨m, k, hpos, hround, hm, hm', hvalue⟩ :=
    exists_roundWithAccuracy .positive (e := -c) hn (by omega)
  rw [hnearest] at hvalue
  have hn : n ≠ 0 := by
    rintro rfl
    simp at hn
  have hlow : 1 ≤ nearestNat n := (Nat.two_pow_pos _).trans_le (two_pow_log2_le_nearestNat hn)
  have hscale : c < k + 53 := by
    refine (Nat.pow_lt_pow_iff_right Nat.one_lt_two).mp ?_
    calc 2 ^ c ≤ nearestNat n * 2 ^ c := Nat.le_mul_of_pos_left _ hlow
      _ = m * 2 ^ k := hvalue.symm
      _ < 2 ^ 53 * 2 ^ k := Nat.mul_lt_mul_of_pos_right hm' (Nat.two_pow_pos k)
      _ = 2 ^ (k + 53) := by rw [pow_add, mul_comm]
  obtain ⟨j, hj⟩ : ∃ j, j + c = k + 52 := ⟨k + 52 - c, by omega⟩
  have hstands : nearestNat n * 2 ^ 52 = m * 2 ^ j := by
    refine Nat.eq_of_mul_eq_mul_right (Nat.two_pow_pos c) ?_
    rw [mul_right_comm, ← hvalue, mul_assoc, mul_assoc, ← pow_add, ← pow_add, hj]
  refine ⟨m, -c + k, hpos, hround, hm, hm', j, by omega, ?_⟩
  change (nearestNat n : Int) * 2 ^ 52 = ((m * 2 ^ j : Nat) : Int)
  exact_mod_cast hstands

/-- From 54 binary digits on, a natural number is scaled by 53 digits and rounded. -/
lemma toModel_ofNat_of_le {n : Nat} (h : 2 ^ 53 ≤ n) : (Float.ofNat n).toModel =
    Float.Model.pack (roundWithAccuracy .binary64 .positive (n * 2 ^ 53) (-(53 : Nat)) .exact) := by
  have hn : n ≠ 0 := by omega
  have hslow : ¬ (n < 2 ^ 53 ∧ 0 ≤ 22) := by omega
  have hofNat : Float.ofNat n = Float.ofScientific n false 0 := rfl
  have hlog : ¬ (2048 : Int) < -(n.log2 : Int) := by omega
  rw [hofNat, Float.ofScientific, dif_neg hslow]
  simp [Float.Model.ofScientific, UnpackedFloat.ofScientific, hn, hlog, UnpackedFloat.mul,
    Nat.shiftLeft_eq]
  rfl

/-- Up to 53 binary digits, a natural number is multiplied by one. -/
lemma ofNat_of_lt {n : Nat} (h : n < 2 ^ 53) :
    Float.ofNat n = n.toUInt64.toFloat * Float.ofBits 0x3FF0000000000000 := by
  have hfast : n < 2 ^ 53 ∧ 0 ≤ 22 := ⟨h, by omega⟩
  have hofNat : Float.ofNat n = Float.ofScientific n false 0 := rfl
  rw [hofNat, Float.ofScientific, dif_pos hfast]
  rfl

lemma toModel_toFloat {n : Nat} (hn : n ≠ 0) (h : n < 2 ^ 53) : n.toUInt64.toFloat.toModel =
    Float.Model.pack (roundWithAccuracy .binary64 .positive (n * 2 ^ (52 - n.log2))
      (-(52 - n.log2 : Nat)) .exact) := by
  have hsize : n < UInt64.size := h.trans (by decide)
  have htoNat : n.toUInt64.toNat = n := UInt64.toNat_ofNat_of_lt' hsize
  have hlog : n.log2 < 53 := (Nat.log2_lt hn).mpr h
  have hpositive : Ord.compare (n : Int) 0 = .gt := compare_gt_iff_gt.mpr (by omega)
  have htarget : Format.binary64.targetExponent (totalExponent n 0) =
      -((52 - n.log2 : Nat) : Int) := by
    simp only [Format.targetExponent, totalExponent, Format.mantissaBits, Format.minExponent]
    omega
  have hshift : (- -((52 - n.log2 : Nat) : Int)).toNat = 52 - n.log2 := by omega
  change Float.Model.pack (UnpackedFloat.ofNat .binary64 n.toUInt64.toNat) = _
  rw [htoNat, UnpackedFloat.ofNat, UnpackedFloat.ofInt, UnpackedFloat.normalize, hpositive]
  simp only [UnpackedFloat.round, Int.toNat_natCast, htarget, decreaseExponent, Int.zero_sub,
    hshift, Nat.shiftLeft_eq]

/-- Multiplying by one changes no canonical double. -/
lemma mul_one_eq {m : Nat} {e : Int} {hpos : 0 < m} (hm : 2 ^ 52 ≤ m) (hlt : m < 2 ^ 53)
    (he : -1022 ≤ e) :
    UnpackedFloat.mul .binary64 (.finite .positive m e hpos)
      (Float.ofBits 0x3FF0000000000000).toModel.unpack = .finite .positive m e hpos := by
  have hone : (Float.ofBits 0x3FF0000000000000).toModel.unpack =
      .finite .positive (2 ^ 52) (-52) (by decide) := rfl
  have hbig : 2 ^ 52 ≤ m * 2 ^ 52 := Nat.le_mul_of_pos_left _ hpos
  obtain ⟨m', k, hpos', hround, hm', hlt', hvalue⟩ :=
    exists_roundWithAccuracy .positive (e := e + -52) hbig (by omega)
  rw [nearestNat_mul_two_pow hm, nearestNat_of_lt hlt] at hvalue
  obtain ⟨rfl, rfl⟩ := eq_of_scaled hm' hlt' hm hlt hvalue
  rw [hone]
  change roundWithAccuracy .binary64 .positive (m' * 2 ^ 52) (e + -52) .exact = _
  rw [hround, finite.injEq]
  exact ⟨rfl, rfl, by omega⟩

/-- The double of a natural number stands for the nearest one. -/
lemma standsFor_ofNat {n : Nat} (h : n < 2 ^ 64) :
    StandsFor (nearestNat n) (Float.ofNat n).toModel.unpack := by
  have hnearest : (nearestNat n : Int).natAbs ≤ 2 ^ 64 := nearestNat_le_two_pow h.le
  by_cases hn : n = 0
  · subst hn
    rw [nearestNat_of_lt (Nat.two_pow_pos 53)]
    exact rfl
  by_cases hsmall : n < 2 ^ 53
  · have hlog : n.log2 ≤ 52 := Nat.lt_succ_iff.mp ((Nat.log2_lt hn).mpr hsmall)
    have hpow : 2 ^ n.log2 * 2 ^ (52 - n.log2) = 2 ^ 52 := by
      rw [← pow_add]
      congr 1
      omega
    have hlow : 2 ^ 52 ≤ n * 2 ^ (52 - n.log2) :=
      hpow ▸ Nat.mul_le_mul_right _ (Nat.log2_self_le hn)
    have hhigh : n * 2 ^ (52 - n.log2) < 2 ^ 53 := by
      have hlt := Nat.mul_lt_mul_of_pos_right (Nat.lt_log2_self (n := n))
        (Nat.two_pow_pos (52 - n.log2))
      rw [pow_succ, mul_right_comm, hpow] at hlt
      omega
    have hscaled : nearestNat (n * 2 ^ (52 - n.log2)) = nearestNat n * 2 ^ (52 - n.log2) := by
      rw [nearestNat_of_lt hhigh, nearestNat_of_lt hsmall]
    obtain ⟨m, e, hpos, hround, hstands⟩ := exists_round hlow (by omega) hscaled
    obtain ⟨hm, hlt, k, hk, -⟩ := id hstands
    have hfirst : n.toUInt64.toFloat.toModel.unpack = .finite .positive m e hpos := by
      rw [toModel_toFloat hn hsmall, hround, hstands.unpack_pack hnearest]
    have hproduct : (Float.ofNat n).toModel = Float.Model.pack (UnpackedFloat.mul .binary64
        n.toUInt64.toFloat.toModel.unpack (Float.ofBits 0x3FF0000000000000).toModel.unpack) := by
      rw [ofNat_of_lt hsmall]
      rfl
    rw [hproduct, hfirst, mul_one_eq hm hlt (by omega), hstands.unpack_pack hnearest]
    exact hstands
  · have hlow : 2 ^ 52 ≤ n * 2 ^ 53 := by omega
    obtain ⟨m, e, hpos, hround, hstands⟩ :=
      exists_round hlow (by omega) (nearestNat_mul_two_pow (by omega) 53)
    rw [toModel_ofNat_of_le (by omega), hround, hstands.unpack_pack hnearest]
    exact hstands

/-! ### The nearest double of an integer -/

/-- The integer of the double nearest to an integer: its 53 leading binary digits, rounded half way
to even. -/
def nearest (x : Int) : Int := x.sign * nearestNat x.natAbs

lemma nearest_natCast (n : Nat) : nearest n = nearestNat n := by
  cases n with
  | zero => rfl
  | succ n =>
    rw [nearest, Int.natAbs_natCast, Int.sign_natCast_of_ne_zero (Nat.succ_ne_zero n), Int.one_mul]

lemma nearest_neg (x : Int) : nearest (-x) = -nearest x := by
  rw [nearest, nearest, Int.natAbs_neg, Int.sign_neg, Int.neg_mul]

lemma nearest_of_natAbs_le {x : Int} (h : x.natAbs ≤ 2 ^ 53) : nearest x = x := by
  rw [nearest, nearestNat_of_le h, Int.sign_mul_natAbs]

/-- The nearest doubles are in the same order, but may coincide. -/
lemma nearest_mono {x y : Int} (h : x ≤ y) : nearest x ≤ nearest y := by
  have hnat {n m : Nat} (h : n ≤ m) : (nearestNat n : Int) ≤ nearestNat m :=
    Int.ofNat_le.mpr (nearestNat_mono h)
  rcases le_total 0 x with hx | hx
  · obtain ⟨n, rfl⟩ := Int.eq_ofNat_of_zero_le hx
    obtain ⟨m, rfl⟩ := Int.eq_ofNat_of_zero_le (hx.trans h)
    rw [nearest_natCast, nearest_natCast]
    exact hnat (Int.ofNat_le.mp h)
  · obtain ⟨n, hn⟩ := Int.eq_ofNat_of_zero_le (Int.neg_nonneg_of_nonpos hx)
    obtain rfl : x = -(n : Int) := by omega
    rw [nearest_neg, nearest_natCast]
    rcases le_total 0 y with hy | hy
    · obtain ⟨m, rfl⟩ := Int.eq_ofNat_of_zero_le hy
      rw [nearest_natCast]
      omega
    · obtain ⟨m, hm⟩ := Int.eq_ofNat_of_zero_le (Int.neg_nonneg_of_nonpos hy)
      obtain rfl : y = -(m : Int) := by omega
      rw [nearest_neg, nearest_natCast]
      exact Int.neg_le_neg (hnat (by omega))

lemma nearest_lt_iff {x y : Int} (h : nearest x = nearest y → x = y) :
    nearest x < nearest y ↔ x < y := by
  constructor
  · intro hlt
    exact not_le.mp fun hle => not_le.mpr hlt (nearest_mono hle)
  · intro hlt
    exact lt_of_le_of_ne (nearest_mono hlt.le) fun heq => hlt.ne (h heq)

/-- The double of an integer stands for the nearest one. -/
lemma standsFor_floatOfInt {x : Int} (h : x.natAbs < 2 ^ 64) :
    StandsFor (nearest x) (Condition.floatOfInt x).toModel.unpack := by
  cases x with
  | ofNat n =>
    rw [Int.ofNat_eq_natCast, nearest_natCast]
    exact standsFor_ofNat h
  | negSucc n =>
    have hstands := (standsFor_ofNat (n := n + 1) h).neg
    have hmodel : (Condition.floatOfInt (.negSucc n)).toModel =
        Float.Model.pack (Float.ofNat (n + 1)).toModel.unpack.neg := rfl
    have hlarge : (-(nearestNat (n + 1) : Int)).natAbs ≤ 2 ^ 64 := by
      rw [Int.natAbs_neg]
      exact nearestNat_le_two_pow h.le
    rw [hmodel, hstands.unpack_pack hlarge, Int.negSucc_eq, nearest_neg]
    exact_mod_cast (nearest_natCast (n + 1)).symm ▸ hstands

end QueryLoom.Doubles

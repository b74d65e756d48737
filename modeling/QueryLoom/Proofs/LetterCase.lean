import Mathlib.Data.List.Basic
import QueryLoom.Text.Trim

/-!
# Letters up to case

Few characters beyond ASCII differ from an ASCII character in case only. Next to all others a text
is compared up to case by its small ASCII letters alone.
-/

namespace QueryLoom.Text

/-! ### Moved characters -/

/-- No row of the table moves a character to the code point. -/
def Unreached (table : List Shift) (n : Nat) : Prop :=
  ∀ row ∈ table, row.span.contains (Int.toNat (n - row.shift)) = false

instance (table : List Shift) (n : Nat) : Decidable (Unreached table n) :=
  inferInstanceAs
    (Decidable (∀ row ∈ table, row.span.contains (Int.toNat (n - row.shift)) = false))

lemma toNat_ofNat_eq {n m : Nat} (hm : 0 < m) (h : (Char.ofNat n).toNat = m) : n = m := by
  by_cases hvalid : n.isValidChar
  · rwa [Char.ofNat, dif_pos hvalid] at h
  · rw [Char.ofNat, dif_neg hvalid] at h
    exact absurd h (Nat.ne_of_lt hm)

lemma move_eq {table : List Shift} {t : Char} (htable : Unreached table t.toNat)
    (ht : 0 < t.toNat) {c : Char} (h : move table c = t) : c = t := by
  unfold move at h
  split at h
  · next row hrow =>
    have hn := toNat_ofNat_eq ht (congrArg Char.toNat h)
    have hcontains := List.find?_some hrow
    have hback : Int.toNat (t.toNat - row.shift) = c.toNat := by omega
    have hfree := htable row (List.mem_of_find?_eq_some hrow)
    rw [hback] at hfree
    exact absurd hcontains (by simp [hfree])
  · exact h

/-! ### Small letters -/

/-- Only capitals change when they are made small, and they stay letters. -/
lemma toLower_cases (c : Char) :
    c.toLower = c ∨
      isAsciiLetter c = true ∧ isAsciiLetter c.toLower = true ∧ c.toLower.toNat = c.toNat + 32 := by
  by_cases h : c.val ≥ 'A'.val ∧ c.val ≤ 'Z'.val
  · right
    have hcapital : 'A' ≤ c ∧ c ≤ 'Z' := h
    have hlow : 65 ≤ c.toNat := hcapital.1
    have hhigh : c.toNat ≤ 90 := hcapital.2
    have hsum : c.toLower.toNat = (c.toNat + 32) % 4294967296 := by
      unfold Char.toLower
      rw [dif_pos h]
      rfl
    have hnat : c.toLower.toNat = c.toNat + 32 := by omega
    have hsmall : 'a' ≤ c.toLower ∧ c.toLower ≤ 'z' := by
      simp only [Char.le_def, UInt32.le_iff_toNat_le]
      change 97 ≤ c.toLower.toNat ∧ c.toLower.toNat ≤ 122
      omega
    exact ⟨by simp [isAsciiLetter, hcapital], by simp [isAsciiLetter, hsmall], hnat⟩
  · left
    unfold Char.toLower
    exact dif_neg h

lemma isAsciiLetter_of_toLower {c : Char} (h : isAsciiLetter c.toLower = true) :
    isAsciiLetter c = true := by
  rcases toLower_cases c with hsame | ⟨hletter, -⟩
  · rwa [hsame] at h
  · exact hletter

lemma isWordChar_of_isAsciiLetter {c : Char} (h : isAsciiLetter c = true) :
    isWordChar c = true := by
  have hascii : c.toNat < 0x80 := by
    simp only [isAsciiLetter, Bool.or_eq_true, Bool.and_eq_true, decide_eq_true_eq, Char.le_def,
      UInt32.le_iff_toNat_le] at h
    have hbound : c.toNat ≤ 122 := by
      rcases h with ⟨-, h⟩ | ⟨-, h⟩
      · exact h
      · exact Nat.le_trans h (by decide)
    omega
  rw [isWordChar, if_pos hascii, isAsciiAlphanumeric, h]
  rfl

/-- An ASCII character that is no capital and that nothing beyond ASCII is folded to. -/
def Isolated (t : Char) : Prop :=
  32 < t.toNat ∧ t.toNat < 0x80 ∧ t.toLower = t ∧ Unreached smallShifts t.toNat ∧
    Unreached capitalShifts t.toNat ∧ Unreached capitalShifts (t.toNat - 32)

instance (t : Char) : Decidable (Isolated t) :=
  inferInstanceAs (Decidable (32 < t.toNat ∧ t.toNat < 0x80 ∧ t.toLower = t ∧
    Unreached smallShifts t.toNat ∧ Unreached capitalShifts t.toNat ∧
    Unreached capitalShifts (t.toNat - 32)))

lemma Isolated.toLower_of_foldCase {t c : Char} (ht : Isolated t) (h : foldCase c = t) :
    c.toLower = t := by
  obtain ⟨hlarge, -, hlower, hsmall, hcapital, hupper⟩ := ht
  have hpos : 0 < t.toNat := by omega
  unfold foldCase at h
  split_ifs at h with hascii hdotless
  · exact h
  · rw [h, hlower]
  · dsimp only at h
    split_ifs at h with hmoved
    · rcases toLower_cases (move capitalShifts c) with hsame | ⟨-, -, hnat⟩
      · rw [move_eq hcapital hpos (hsame.symm.trans h), hlower]
      · rw [h] at hnat
        have hfree : Unreached capitalShifts (move capitalShifts c).toNat := by
          rwa [show (move capitalShifts c).toNat = t.toNat - 32 by omega]
        rw [move_eq hfree (by omega) rfl, h]
    · rw [move_eq hcapital hpos (move_eq hsmall hpos h), hlower]

/-- Next to an isolated character the small ASCII letter of a character decides. -/
lemma Isolated.sameIgnoringCase_iff {t c : Char} (ht : Isolated t) :
    sameIgnoringCase t c = true ↔ c.toLower = t := by
  have hfold : foldCase t = t := by rw [foldCase, if_pos ht.2.1, ht.2.2.1]
  rw [sameIgnoringCase, hfold, beq_iff_eq]
  constructor
  · exact fun h => ht.toLower_of_foldCase h.symm
  · intro h
    have hascii : c.toNat < 0x80 := by
      have ht' := ht.2.1
      rcases toLower_cases c with hsame | ⟨-, -, hnat⟩
      · rwa [← hsame, h]
      · rw [h] at hnat
        omega
    rw [foldCase, if_pos hascii, h]

/-- A text begins with a word of isolated characters up to case if it does so in small letters. -/
lemma stripLeadIgnoringCase?_eq_some {word : List Char} (hword : ∀ t ∈ word, Isolated t)
    {cs rest : List Char} :
    stripLeadIgnoringCase? word cs = some rest ↔
      ∃ found, found.map Char.toLower = word ∧ cs = found ++ rest := by
  induction word generalizing cs with
  | nil => simp [stripLeadIgnoringCase?, eq_comm]
  | cons t word ih =>
    obtain ⟨ht, hmore⟩ := List.forall_mem_cons.mp hword
    cases cs with
    | nil => simp [stripLeadIgnoringCase?]
    | cons c cs =>
      rw [stripLeadIgnoringCase?]
      constructor
      · intro h
        split at h
        · next hc =>
          obtain ⟨found, hfound, rfl⟩ := (ih hmore).mp h
          exact ⟨c :: found, by simp [hfound, ht.sameIgnoringCase_iff.mp hc], rfl⟩
        · cases h
      · rintro ⟨found, hfound, hcs⟩
        cases found with
        | nil => cases hfound
        | cons e found =>
          obtain ⟨he, hmany⟩ := List.cons.inj hfound
          obtain ⟨rfl, rfl⟩ := List.cons.inj hcs
          rw [if_pos (ht.sameIgnoringCase_iff.mpr he)]
          exact (ih hmore).mpr ⟨found, hmany, rfl⟩

end QueryLoom.Text

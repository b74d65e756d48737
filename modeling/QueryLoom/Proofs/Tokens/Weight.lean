import Mathlib.Algebra.GroupWithZero.Nat
import QueryLoom.Proofs.Tokens.Continued

/-!
# The weight of tokens

White space weighs nothing, and no token weighs more than the text it is spelled by: a token that
takes white space away costs nothing, one that takes any other character or an escape does. So a
text that weighs what its tokens do has no more in it than the tokens.
-/

namespace QueryLoom.SqlToken

variable {d : Dialect}

/-! ### Texts -/

/-- The weight of a character; a quote weighs less than what is written instead of it. -/
def charWeight (c : Char) : Nat :=
  if c == ' ' || c == '\n' then 0 else if c == '\'' then 1 else 2

/-- The weight of a text. -/
def weight (cs : List Char) : Nat := (cs.map charWeight).sum

@[simp] lemma weight_nil : weight [] = 0 := rfl

@[simp] lemma weight_cons (c : Char) (cs : List Char) :
    weight (c :: cs) = charWeight c + weight cs := rfl

@[simp] lemma weight_append (cs cs' : List Char) : weight (cs ++ cs') = weight cs + weight cs' := by
  simp [weight]

lemma charWeight_gap {c : Char} (hc : IsGap c) : charWeight c = 0 := by
  rcases hc with rfl | rfl <;> rfl

lemma charWeight_pos {c : Char} (hc : ¬ IsGap c) : 0 < charWeight c := by
  simp only [IsGap, not_or] at hc
  unfold charWeight
  split
  · next h => simp [hc] at h
  · split <;> decide

lemma charWeight_le (c : Char) : charWeight c ≤ 2 := by
  unfold charWeight
  split
  · decide
  · split <;> decide

/-! ### Decoded strings -/

lemma charWeight_escaped {c value : Char}
    (hc : value = c ∨ Text.isAsciiAlphanumeric c = true ∨ c = '+') :
    charWeight value < charWeight '\\' + charWeight c := by
  have hbackslash : charWeight '\\' = 2 := rfl
  rcases hc with rfl | hc | rfl
  · omega
  · have hnamed : c ∉ [' ', '\n', '\''] := notMem_of_class (by decide) hc
    simp only [List.mem_cons, List.not_mem_nil, or_false, not_or] at hnamed
    have hweight : charWeight c = 2 := by simp [charWeight, hnamed]
    have hvalue := charWeight_le value
    omega
  · have hvalue := charWeight_le value
    have hplus : charWeight '+' = 2 := rfl
    omega

/-- A decoded text weighs less than what it was written as, if it could not be written as it is. -/
lemma Decoded.weight_le {raw text : List Char} (h : Decoded raw text) :
    weight text ≤ weight raw ∧
      ((∃ c ∈ text, c = '\'' ∨ c = '\\') → weight text < weight raw) := by
  induction h with
  | nil => simp
  | @kept c hquote hescape raw text _ ih =>
    refine ⟨by simpa using ih.1, ?_⟩
    rintro ⟨e, he, hspecial⟩
    rcases List.mem_cons.mp he with rfl | he
    · exact (hspecial.elim hquote hescape).elim
    · simpa using ih.2 ⟨e, he, hspecial⟩
  | @doubled raw text _ ih =>
    have hquote : charWeight '\'' = 1 := rfl
    have hle := ih.1
    simp only [weight_cons]
    exact ⟨by omega, fun _ => by omega⟩
  | @escaped c value hc code raw text _ ih =>
    have hescape := charWeight_escaped hc
    have hle := ih.1
    simp only [weight_cons, weight_append]
    exact ⟨by omega, fun _ => by omega⟩

/-! ### Tokens -/

/-- A letter in front of a string weighs the same as its capital. -/
lemma charWeight_lead {c u : Char} (hc : c.toUpper = u) (hu : u ∈ ['B', 'N', 'X', 'E', 'U']) :
    charWeight c = charWeight u := by
  have hsmall : ∀ u ∈ ['B', 'N', 'X', 'E', 'U'],
      (charWeight (Char.ofNat (u.toNat + 32)) == charWeight u) = true :=
    List.all_eq_true.mp (by decide)
  rcases eq_of_toUpper hc with rfl | rfl
  · rfl
  · exact eq_of_beq (hsmall u hu)

lemma decoded_of_escaped {raw text rest : List Char}
    (h : readEscaped? (raw ++ '\'' :: rest) = some (text, rest)) : Decoded raw text := by
  obtain ⟨raw', hraw, -, hdecoded⟩ := decoded_of_readEscaped? h
  rwa [List.append_cancel_right hraw]

lemma decoded_of_numbered {raw text rest : List Char}
    (h : readNumbered? (raw ++ '\'' :: rest) = some (text, rest)) : Decoded raw text := by
  obtain ⟨raw', hraw, -, hdecoded⟩ := decoded_of_readNumbered? h
  rwa [List.append_cancel_right hraw]

lemma Literal.weight_le {t : SqlToken} {source rest : List Char} (h : Literal d t source rest) :
    weight t.text ≤ weight source := by
  cases h with
  | bits _ hc => simp [SqlToken.text, charWeight_lead hc (by decide)]
  | marked hc =>
    rcases hc with hc | hc <;> simp [SqlToken.text, hc, charWeight_lead hc (by decide)]
  | escaped hc h =>
    have hle := (decoded_of_escaped h).weight_le.1
    simp [SqlToken.text, charWeight_lead hc (by decide), hle]
  | numbered _ hc h =>
    have hle := (decoded_of_numbered h).weight_le.1
    simp [SqlToken.text, charWeight_lead hc (by decide), hle]
  | hex =>
    have hwritten : charWeight 'X' + (charWeight '\'' + charWeight '\'') = 4 := rfl
    have hread : charWeight '0' + charWeight 'x' = 4 := rfl
    simp only [SqlToken.text, List.cons_append, List.nil_append, weight_cons, weight_append,
      weight_nil]
    omega
  | _ => simp [SqlToken.text]

lemma Symbol.weight_le {text source rest : List Char} (h : Symbol d text source rest) :
    weight text ≤ weight source := by
  cases h with
  | @operator c _ _ more =>
    have hshown : weight (shown (c :: more)) = weight (c :: more) := by
      unfold shown
      split
      · next h => rw [h]; rfl
      · rfl
    rw [weight_append, hshown]
    simp [Nat.add_assoc]
  | question => simp
  | _ => simp

/-- No token weighs more than its spelling. -/
lemma Spells.weight_le {t : SqlToken} {source rest : List Char} (h : Spells d t source rest) :
    weight t.text ≤ weight source := by
  cases h with
  | blank | newline => exact Nat.zero_le _
  | comment h => cases h <;> simp [SqlToken.text]
  | literal h => exact h.weight_le
  | symbol h => exact h.weight_le
  | _ => exact Nat.le_refl _

/-! ### Sequences of tokens -/

/-- A token without the line break that ends a line comment; white space is none. -/
def core? : SqlToken → Option SqlToken
  | .blank => none
  | .lineComment opening body =>
    some (.lineComment opening (if body.getLast? == some '\n' then body.dropLast else body))
  | token => some token

lemma core?_eq_none {t : SqlToken} (h : core? t = none) : t = .blank := by
  unfold core? at h
  split at h
  · rfl
  · cases h
  · cases h

lemma core?_eq_some {t : SqlToken} (ht : t ≠ .blank)
    (hcomment : ∀ opening body, t ≠ .lineComment opening body) : core? t = some t := by
  unfold core?
  split
  · exact absurd rfl ht
  · exact absurd rfl (hcomment _ _)
  · rfl

/-- A token other than a line comment is one only for itself. -/
lemma eq_of_core?_eq_some {t t' : SqlToken} (h : core? t' = some t)
    (hcomment : ∀ opening body, t ≠ .lineComment opening body) : t' = t := by
  unfold core? at h
  split at h
  · cases h
  · exact absurd (Option.some.inj h).symm (hcomment _ _)
  · exact Option.some.inj h

/-- The tokens and comments of a text, without its white space. -/
def essence (ts : List SqlToken) : List SqlToken := ts.filterMap core?

/-- The weight of tokens. -/
def tokensWeight (ts : List SqlToken) : Nat := (ts.map (weight ·.text)).sum

@[simp] lemma tokensWeight_cons (t : SqlToken) (ts : List SqlToken) :
    tokensWeight (t :: ts) = weight t.text + tokensWeight ts := rfl

lemma weight_core? {t t' : SqlToken} (h : core? t = some t') : weight t'.text = weight t.text := by
  unfold core? at h
  split at h
  · cases h
  · next opening body =>
    cases h
    split
    · next hlast =>
      obtain ⟨front, rfl⟩ := List.getLast?_eq_some_iff.mp (eq_of_beq hlast)
      have hnewline : charWeight '\n' = 0 := rfl
      simp [SqlToken.text, hnewline]
    · rfl
  · rw [Option.some.inj h]

lemma tokensWeight_essence (ts : List SqlToken) : tokensWeight (essence ts) = tokensWeight ts := by
  induction ts with
  | nil => rfl
  | cons t ts ih =>
    cases ht : core? t with
    | none =>
      obtain rfl := core?_eq_none ht
      rw [essence, List.filterMap_cons_none ht, ← essence, ih]
      have hspace : weight (SqlToken.text .blank) = 0 := rfl
      simp [hspace]
    | some t' =>
      rw [essence, List.filterMap_cons_some ht, ← essence, tokensWeight_cons, ih, weight_core? ht,
        tokensWeight_cons]

lemma weight_laidText (t : SqlToken) : weight (laidText t) = weight t.text := by
  unfold laidText
  split
  · have hnewline : charWeight '\n' = 0 := rfl
    split <;> simp [SqlToken.text, hnewline]
  · rfl

lemma weight_gap (p : Place) (breaks : Bool) : weight (p.gap breaks) = 0 := by
  rcases p.gap_cases breaks with ⟨h, -⟩ | ⟨c, hc, h⟩
  · rw [h, weight_nil]
  · rw [h, weight_cons, charWeight_gap hc, weight_nil]

/-- A layout weighs what its tokens do. -/
lemma weight_layFrom (style : FormatStyle) (p : Place) (ts : List SqlToken) :
    weight (layFrom style p ts) = tokensWeight ts := by
  induction ts generalizing p with
  | nil => rfl
  | cons t ts ih =>
    by_cases ht : t = .blank
    · subst ht
      rw [layFrom_blank, ih, tokensWeight_cons]
      exact (Nat.zero_add _).symm
    · rw [layFrom_cons style p ht, weight_append, weight_append, weight_gap, weight_laidText, ih,
        tokensWeight_cons, Nat.zero_add]

/-- The tokens of a text weigh no more than the text. -/
lemma Lexes.weight_le {ls : List (SqlToken × List Char)} {cs : List Char} (h : Lexes d ls cs) :
    tokensWeight (ls.map Prod.fst) ≤ weight cs := by
  induction h with
  | nil => exact Nat.le_refl _
  | cons hspells _ ih =>
    rw [List.map_cons, tokensWeight_cons, weight_append]
    exact Nat.add_le_add hspells.weight_le ih

end QueryLoom.SqlToken

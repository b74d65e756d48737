import QueryLoom.Proofs.Tokens.Grammar

/-!
# The first character of a token

The first character decides which reader takes a token.
-/

namespace QueryLoom.SqlToken

variable {d : Dialect} {c : Char} {cs : List Char}

/-! ### Classes -/

lemma toUpper_eq_self (h : Text.isAsciiLetter c = false) : c.toUpper = c := by
  unfold Char.toUpper
  split
  · next hsmall =>
    exfalso
    simp only [Text.isAsciiLetter, Bool.or_eq_false_iff, Bool.and_eq_false_iff,
      decide_eq_false_iff_not] at h
    exact h.1.elim (fun hlow => hlow hsmall.1) fun hhigh => hhigh hsmall.2
  · rfl

lemma eq_of_toUpper {u : Char} (h : c.toUpper = u) : c = u ∨ c = Char.ofNat (u.toNat + 32) := by
  unfold Char.toUpper at h
  split at h
  · next hc =>
    subst h
    have hlow : 97 ≤ c.val.toNat := hc.1
    have hhigh : c.val.toNat ≤ 122 := hc.2
    have hback : (c.val + ('A'.val - 'a'.val)).toNat + 32 = c.val.toNat := by
      rw [UInt32.toNat_add]
      have hshift : ('A'.val - 'a'.val).toNat = 4294967264 := by decide
      omega
    refine .inr ?_
    conv_lhs => rw [← Char.ofNat_toNat c]
    exact congrArg Char.ofNat hback.symm
  · exact .inl h

lemma isAsciiLetter_of_toUpper (h : Text.isAsciiLetter c.toUpper = true) :
    Text.isAsciiLetter c = true := by
  by_contra hc
  rw [Bool.not_eq_true] at hc
  rw [toUpper_eq_self hc, hc] at h
  cases h

lemma announcesString_eq_false (h : Text.isAsciiLetter c = false) :
    announcesString d (c :: cs) = false := by
  have hnamed : c ∉ ['B', 'N', 'X', 'E', 'U'] :=
    notMem_of_class (p := fun e => !Text.isAsciiLetter e) (by decide) (by simp [h])
  simp only [List.mem_cons, List.not_mem_nil, or_false, not_or] at hnamed
  have hupper := toUpper_eq_self h
  unfold announcesString
  split
  · next heq =>
    obtain ⟨rfl, -⟩ := List.cons.inj heq
    simp [hupper, hnamed]
  · next heq =>
    obtain ⟨rfl, -⟩ := List.cons.inj heq
    simp [hupper, hnamed]
  · next heq =>
    obtain ⟨rfl, -⟩ := List.cons.inj heq
    simp [hupper, hnamed]
  · rfl

/-- The characters that open a quoted word on some dialect. -/
lemma opensQuotedWord_cases (h : opensQuotedWord d c = true) :
    c = '"' ∨ c = '\x60' ∨ c = '[' := by
  cases d with
  | mysql => exact .inr (.inl (by simpa [opensQuotedWord] using h))
  | postgres => exact .inl (by simpa [opensQuotedWord] using h)
  | sqlite =>
    have hcases : (c = '\x60' ∨ c = '"') ∨ c = '[' := by simpa [opensQuotedWord] using h
    rcases hcases with (rfl | rfl) | rfl <;> simp

lemma closingQuote_ne (h : opensQuotedWord d c = true) : closingQuote c ≠ '\\' := by
  rcases opensQuotedWord_cases h with rfl | rfl | rfl <;> decide

/-! ### Which reader a character calls -/

/-- The characters that the reader asks for by name. -/
def named : List Char :=
  [' ', '\t', '\n', '\r', '-', '#', '/', '\'', '"', '\x60', '[', '.', '@', '$']

lemma opensQuotedWord_eq_false (h : c ∉ named) : opensQuotedWord d c = false := by
  simp only [named, List.mem_cons, List.not_mem_nil, or_false, not_or] at h
  cases d <;> simp [opensQuotedWord, h]

lemma next_blank (hc : Text.isBlank c = true) (hword : startsWord d c = false)
    (hrest : c = '\r' → cs.head? ≠ some '\n') : next d c cs = .ok (.blank, cs) := by
  by_cases hspace : c = ' ' ∨ c = '\t' ∨ c = '\n' ∨ c = '\r'
  · rcases hspace with rfl | rfl | rfl | rfl
    case inr.inr.inr =>
      rcases cs with _ | ⟨e, cs⟩
      · simp [next]
      · have he : e ≠ '\n' := by simpa using hrest rfl
        simp [next, he]
    all_goals simp [next]
  · have hnamed : c ∉ ['-', '#', '/', '\'', '"', '\x60', '[', '.', '@', '$'] :=
      notMem_of_class (by decide) hc
    simp only [List.mem_cons, List.not_mem_nil, or_false, not_or] at hnamed hspace
    have hopens : opensQuotedWord d c = false :=
      opensQuotedWord_eq_false (by simp [named, hnamed, hspace])
    have hletter := isAsciiLetter_eq_false hword
    have hdigit : Text.isAsciiDigit c = false := by
      apply Bool.eq_false_iff.mpr
      intro hdigit
      rw [isBlank_of_isAsciiDigit hdigit] at hc
      cases hc
    simp [next, lexComment?, hspace, hnamed, hletter, hopens, hdigit, hword, hc]

lemma next_comment {result : Except String (SqlToken × List Char)}
    (h : lexComment? d c cs = some result) : next d c cs = result := by
  have hc : c = '-' ∨ c = '#' ∨ c = '/' := by
    unfold lexComment? at h
    split at h <;> simp_all
  rcases hc with rfl | rfl | rfl <;> simp [next, h]

lemma next_letter (h : Text.isAsciiLetter c = true) : next d c cs = lexLetter d c cs := by
  have hnamed : c ∉ named := notMem_of_class (by decide) h
  simp only [named, List.mem_cons, List.not_mem_nil, or_false, not_or] at hnamed
  simp [next, lexComment?, hnamed, h]

lemma next_word (hc : startsWord d c = true) (hletter : Text.isAsciiLetter c = false)
    (hat : c ≠ '@') : next d c cs = .ok (lexWord d [c] cs) := by
  have hnamed : c ∉ [' ', '\t', '\n', '\r', '-', '#', '/', '\'', '"', '\x60', '[', '.'] :=
    notMem_of_class (by cases d <;> decide) hc
  have hopens : opensQuotedWord d c = false := by
    simp only [List.mem_cons, List.not_mem_nil, or_false, not_or] at hnamed
    cases d <;> simp [opensQuotedWord, hnamed]
  have hdigit : Text.isAsciiDigit c = false := by
    apply Bool.eq_false_iff.mpr
    intro hdigit
    rw [startsWord_of_isAsciiDigit d hdigit] at hc
    cases hc
  simp only [List.mem_cons, List.not_mem_nil, or_false, not_or] at hnamed
  simp [next, lexComment?, hnamed, hletter, hopens, hdigit, hat, hc]

lemma next_quote : next d '\'' cs = lexString [] '\'' (d == .mysql) cs := by
  simp [next, lexComment?, show Text.isAsciiLetter '\'' = false from by decide]

lemma next_doubleQuote : next .mysql '"' cs = lexString [] '"' true cs := by
  simp [next, lexComment?, opensQuotedWord, show Text.isAsciiLetter '"' = false from by decide]

lemma next_quotedWord (hc : opensQuotedWord d c = true) {text rest : List Char}
    (h : readQuoted? false (closingQuote c) cs = some (text, rest)) :
    next d c cs = .ok (.quotedWord c text, rest) := by
  have hnamed : c ∉ [' ', '\t', '\n', '\r', '-', '#', '/', '\''] :=
    notMem_of_class (by cases d <;> decide) hc
  have hletter : Text.isAsciiLetter c = false := by
    apply Bool.eq_false_iff.mpr
    intro hletter
    rw [opensQuotedWord_eq_false (notMem_of_class (by decide) hletter)] at hc
    cases hc
  simp only [List.mem_cons, List.not_mem_nil, or_false, not_or] at hnamed
  simp [next, lexComment?, hnamed, hc, hletter, h]

lemma next_at : next d '@' cs = .ok (lexAt d cs) := by
  have hopens : opensQuotedWord d '@' = false := by cases d <;> decide
  have hletter : Text.isAsciiLetter '@' = false := by decide
  have hdigit : Text.isAsciiDigit '@' = false := by decide
  simp [next, lexComment?, hopens, hletter, hdigit]

lemma next_dollar (hd : d ≠ .mysql) : next d '$' cs = lexDollar cs := by
  have hopens : opensQuotedWord d '$' = false := by cases d <;> decide
  have hword : startsWord d '$' = false := by
    cases d with
    | mysql => exact absurd rfl hd
    | postgres => decide
    | sqlite => decide
  have hletter : Text.isAsciiLetter '$' = false := by decide
  have hdigit : Text.isAsciiDigit '$' = false := by decide
  simp [next, lexComment?, hopens, hword, hletter, hdigit]

lemma next_digits (hc : Text.isAsciiDigit c = true ∨ c = '.') :
    next d c cs = .ok (lexDigits d (c :: cs)) := by
  have hclass : (Text.isAsciiDigit c || c == '.') = true := by simpa using hc
  have hnamed : c ∉ [' ', '\t', '\n', '\r', '-', '#', '/', '\'', '"', '\x60', '['] :=
    notMem_of_class (p := fun c => Text.isAsciiDigit c || c == '.') (by decide) hclass
  have hletter : Text.isAsciiLetter c = false := by
    rcases hc with hc | rfl
    · exact isAsciiLetter_eq_false (startsWord_of_isAsciiDigit d hc)
    · decide
  simp only [List.mem_cons, List.not_mem_nil, or_false, not_or] at hnamed
  have hopens : opensQuotedWord d c = false := by
    cases d <;> simp [opensQuotedWord, hnamed]
  simp [next, lexComment?, hnamed, hletter, hopens, hc]

lemma lexComment?_eq_none (h : ¬ OpensComment d (c :: cs)) : lexComment? d c cs = none := by
  unfold lexComment?
  split
  · next rest => exact absurd (.inl ⟨rest, rfl⟩) h
  · rw [if_neg]
    intro hd
    exact h (.inr (.inr ⟨by simpa using hd, cs, rfl⟩))
  · next rest => exact absurd (.inr (.inl ⟨rest, rfl⟩)) h
  · rfl

lemma next_symbol (hc : startsSymbol d c = true) (hcomment : ¬ OpensComment d (c :: cs)) :
    next d c cs = .ok (lexSymbol d c cs) := by
  have hspace : c ∉ [' ', '\t', '\n', '\r'] := notMem_of_class (by cases d <;> decide) hc
  simp only [startsSymbol, Bool.not_eq_true', Bool.or_eq_false_iff, List.contains_eq_mem,
    decide_eq_false_iff_not, List.mem_cons, List.not_mem_nil, or_false, not_or] at hc hspace
  obtain ⟨⟨⟨⟨hblank, hword⟩, hopens⟩, hdigit⟩, hne⟩ := hc
  simp [next, lexComment?_eq_none hcomment, hspace, hblank, hword, hopens, hdigit, hne,
    isAsciiLetter_eq_false hword]

lemma next_single (hc : c ∈ ['(', ')', '?']) : next d c cs = .ok (lexSymbol d c cs) := by
  have hstarts : startsSymbol d c = true := by
    have hall : ∀ e ∈ ['(', ')', '?'], startsSymbol d e = true :=
      List.all_eq_true.mp (by cases d <;> decide)
    exact hall c hc
  refine next_symbol hstarts ?_
  simp only [List.mem_cons, List.not_mem_nil, or_false] at hc
  rcases hc with rfl | rfl | rfl <;> rintro (h | h | ⟨-, h⟩) <;> simp at h

lemma not_opensComment (h : lexComment? d c cs = none) : ¬ OpensComment d (c :: cs) := by
  rintro (⟨rest, hrest⟩ | ⟨rest, hrest⟩ | ⟨rfl, rest, hrest⟩)
  all_goals
    obtain ⟨rfl, rfl⟩ := List.cons.inj hrest
    simp [lexComment?] at h
  split at h <;> cases h

end QueryLoom.SqlToken

import QueryLoom.Proofs.Tokens.Readers

/-!
# Texts as tokens

Every spelling is read, so that a text has exactly the tokens that make it up.
-/

namespace QueryLoom.SqlToken

variable {d : Dialect} {c : Char} {cs : List Char}

/-! ### Every spelling is read -/

lemma lexLetter_word (h : announcesString d (c :: cs) = false) :
    lexLetter d c cs = .ok (lexWord d [c] cs) := by
  unfold lexLetter
  split
  case h_7 => rfl
  all_goals simp_all [announcesString]

lemma lexWord_run (start : List Char) {more rest : List Char}
    (hmore : ∀ e ∈ more, continuesWord d e = true) (hrest : Stops (continuesWord d) rest) :
    lexWord d start (more ++ rest) = (.word (start ++ more), rest) :=
  lexWord_eq_iff.mpr ⟨more, rfl, hmore, hrest, rfl⟩

/-- A decimal that is no single point begins with a digit or a point. -/
lemma Decimal.next_eq {digits rest : List Char} (h : Decimal digits rest) (hne : digits ≠ [])
    (hhex : digits = ['0'] → Stops (· == 'x') rest) :
    ∃ c cs, digits ++ rest = c :: cs ∧ next d c cs = .ok (lexNumber d (digits ++ rest)) := by
  obtain ⟨c, more, rfl⟩ := List.exists_cons_of_ne_nil hne
  have hc : Text.isAsciiDigit c = true ∨ c = '.' := by
    simpa using h.forall_mem c List.mem_cons_self
  refine ⟨c, more ++ rest, rfl, ?_⟩
  rw [next_digits hc, ← List.cons_append, h.lexDigits_eq hhex hne]

lemma Word.next_eq {text rest : List Char} (h : Word d text rest) :
    ∃ c cs, text ++ rest = c :: cs ∧ next d c cs = .ok (.word text, rest) := by
  cases h with
  | @bare c hc hat more _ hmore hrest hannounces =>
    refine ⟨c, more ++ rest, rfl, ?_⟩
    have hread := lexWord_run [c] hmore hrest
    by_cases hletter : Text.isAsciiLetter c = true
    · rw [next_letter hletter, lexLetter_word hannounces, hread, List.singleton_append]
    · rw [next_word hc (by simpa using hletter) hat, hread, List.singleton_append]
  | @digits hd digits more _ hdigits hne hhex he hne' hmore hrest =>
    obtain ⟨c, cs, hcs, hnext⟩ := hdigits.next_eq (d := d) hne.1 hhex
    refine ⟨c, cs, by rw [List.append_assoc, hcs], ?_⟩
    have htake := takeWhile_run hmore hrest
    have hdrop := dropWhile_run hmore hrest
    rw [hnext, lexNumber, hdigits.readDigits_eq]
    subst hd
    simp [hne.2, exponent?_eq_none he, he, htake, hdrop, hne']
  | @userVariable hd c hc hc' more _ hmore hrest =>
    refine ⟨'@', c :: (more ++ rest), rfl, ?_⟩
    simp only [List.mem_cons, List.not_mem_nil, or_false, not_or] at hc hc'
    rw [next_at, lexAt]
    · simp [hc', hd]
      subst hd
      simpa using lexWord_run ['@', c] hmore hrest
    all_goals simp [hc]
  | @systemVariable hd c hc more _ hmore hrest =>
    refine ⟨'@', '@' :: c :: (more ++ rest), rfl, ?_⟩
    rw [next_at, lexAt]
    · simp [hd]
      subst hd
      simpa using lexWord_run ['@', '@', c] hmore hrest
    · exact hc

lemma Numeral.next_eq {text rest : List Char} (h : Numeral d text rest) :
    ∃ c cs, text ++ rest = c :: cs ∧ next d c cs = .ok (lexNumber.lexLong text rest) := by
  cases h with
  | @plain _ _ hdigits hne hhex he hword =>
    obtain ⟨c, cs, hcs, hnext⟩ := hdigits.next_eq (d := d) hne.1 hhex
    refine ⟨c, cs, hcs, ?_⟩
    rw [hnext, lexNumber, hdigits.readDigits_eq]
    have hif : (d == .mysql && !startsExponent rest &&
        !(rest.takeWhile (continuesWord d)).isEmpty) = false := by
      by_cases hd : d = .mysql
      · rcases hword hd with hw | hw
        · simp [hw]
        · simp [takeWhile_of_stops hw]
      · simp [hd]
    simp only [beq_iff_eq, hne.2, if_false, he, hif, Bool.false_eq_true]
  | @scientific digits exponent _ hdigits hne he hrest =>
    have hhex : digits = ['0'] → Stops (· == 'x') (exponent ++ rest) := by
      obtain ⟨e, sign, tail, rfl, he | he, -⟩ := he <;> simp [he]
    obtain ⟨c, cs, hcs, hnext⟩ := hdigits.next_eq (d := d) hne.1 hhex
    refine ⟨c, cs, by rw [List.append_assoc, hcs], ?_⟩
    rw [hnext, lexNumber, hdigits.readDigits_eq]
    simp [hne.2, exponent?_eq he hrest]

lemma lexLong_plain {digits rest : List Char} (h : Stops (· == 'L') rest) :
    lexNumber.lexLong digits rest = (.number digits false, rest) := by
  unfold lexNumber.lexLong
  split
  · simp at h
  · rfl

lemma lexString_run {lead : List Char} {quote : Char} (hquote : quote ≠ '\\') {escapes : Bool}
    {text rest : List Char} (h : Inside escapes quote text) (hrest : rest.head? ≠ some quote) :
    lexString lead quote escapes (text ++ quote :: rest) = .ok (.string lead quote text, rest) :=
  (lexString_eq_iff hquote).mpr ⟨text, rfl, h, hrest, rfl⟩

lemma Literal.next_eq {t : SqlToken} {source rest : List Char} (h : Literal d t source rest) :
    ∃ c cs, source ++ rest = c :: cs ∧ next d c cs = .ok (t, rest) := by
  cases h with
  | @quotedWord q hq text _ h hrest =>
    refine ⟨q, text ++ closingQuote q :: rest, by simp, ?_⟩
    exact next_quotedWord hq (h.readQuoted?_eq (closingQuote_ne hq) hrest)
  | @string q hq text _ h hrest =>
    refine ⟨q, text ++ q :: rest, by simp, ?_⟩
    rcases hq with rfl | ⟨rfl, rfl⟩
    · rw [next_quote, lexString_run (by decide) h hrest]
    · rw [next_doubleQuote]
      exact lexString_run (by decide) h hrest
  | @bits hd c q hc hq text _ h hrest =>
    refine ⟨c, q :: (text ++ q :: rest), by simp, ?_⟩
    rw [next_letter (isAsciiLetter_of_toUpper (by rw [hc]; decide))]
    rcases hq with rfl | rfl
    all_goals simp [lexLetter, hc, hd, lexString_run, h, hrest]
  | @marked c hc text _ h hrest =>
    refine ⟨c, '\'' :: (text ++ '\'' :: rest), by simp, ?_⟩
    rw [next_letter (isAsciiLetter_of_toUpper (by rcases hc with hc | hc <;> rw [hc] <;> decide))]
    rcases hc with hc | hc
    all_goals simp [lexLetter, hc, lexString_run, h, hrest]
  | @escaped c hc raw text _ h =>
    refine ⟨c, '\'' :: (raw ++ '\'' :: rest), by simp, ?_⟩
    rw [next_letter (isAsciiLetter_of_toUpper (by rw [hc]; decide))]
    simp [lexLetter, hc, h]
  | @numbered hd c hc raw text _ h =>
    refine ⟨c, '&' :: '\'' :: (raw ++ '\'' :: rest), by simp, ?_⟩
    rw [next_letter (isAsciiLetter_of_toUpper (by rw [hc]; decide))]
    simp [lexLetter, hc, hd, h]
  | @hex digits _ h hrest =>
    refine ⟨'0', 'x' :: (digits ++ rest), rfl, ?_⟩
    rw [next_digits (.inl (by decide)), lexDigits, takeWhile_run h hrest, dropWhile_run h hrest]
  | @dollars hd tag text htag h _ =>
    refine ⟨'$', tag ++ '$' :: (text ++ '$' :: (tag ++ '$' :: rest)), by simp, ?_⟩
    have hstop : Stops isTagChar ('$' :: (text ++ '$' :: (tag ++ '$' :: rest))) := by
      rw [stops_cons]; decide
    rw [next_dollar hd, lexDollar_eq, takeWhile_run htag hstop, dropWhile_run htag hstop,
      readTagged]
    have hcut := h rest
    simp only [List.cons_append, List.append_assoc, List.nil_append] at hcut
    rw [hcut]

lemma readLine_eq {body rest : List Char} {opening : List Char}
    (ho : Binding.IsLineComment d opening)
    (h : readLine (endsLine d) cs = (body, rest)) :
    ∃ c more, opening ++ cs = c :: more ∧
      next d c more = .ok (.lineComment opening body, rest) := by
  rcases ho with rfl | ⟨rfl, rfl⟩
  · refine ⟨'-', '-' :: cs, rfl, next_comment ?_⟩
    have hread : readLine (fun c => c == '\n' || (d == .postgres && c == '\r')) cs
        = (body, rest) := h
    simp [lexComment?, hread]
  · refine ⟨'#', cs, rfl, next_comment ?_⟩
    have hread : readLine (fun c => c == '\n' || (Dialect.mysql == .postgres && c == '\r')) cs
        = (body, rest) := h
    simp [lexComment?, hread]

lemma Comment.next_eq {t : SqlToken} {source rest : List Char} (h : Comment d t source rest) :
    ∃ c cs, source ++ rest = c :: cs ∧ next d c cs = .ok (t, rest) := by
  cases h with
  | @line opening ho body e hbody he _ =>
    obtain ⟨c, cs, hcs, hnext⟩ := readLine_eq ho (readLine_ended hbody he rest)
    exact ⟨c, cs, by rw [← hcs]; simp, hnext⟩
  | @lastLine opening ho body hbody =>
    obtain ⟨c, cs, hcs, hnext⟩ := readLine_eq ho (readLine_last hbody)
    exact ⟨c, cs, by rw [← hcs]; simp, hnext⟩
  | @block body h _ =>
    refine ⟨'/', '*' :: (body ++ '*' :: '/' :: rest), by simp, next_comment ?_⟩
    simp [lexComment?, h]

lemma Symbol.next_eq {text source rest : List Char} (h : Symbol d text source rest) :
    ∃ c cs, source ++ rest = c :: cs ∧ next d c cs = .ok (.symbol text, rest) := by
  have hquestion : ∀ more, next d '?' more = .ok (lexSymbol.lexQuestion d more) := fun more => by
    rw [next_single (by decide), lexSymbol]
  cases h with
  | @point _ hrest =>
    refine ⟨'.', rest, rfl, ?_⟩
    have hnone : ∀ c ∈ ([] : List Char), Text.isAsciiDigit c = true := by simp
    have hdecimal : Decimal ['.'] rest := .point hnone hnone hrest
    have hdigits : readDigits ('.' :: rest) = (['.'], rest) := hdecimal.readDigits_eq
    have hread : lexDigits d ('.' :: rest) = lexNumber d ('.' :: rest) :=
      hdecimal.lexDigits_eq (by simp) (by simp)
    rw [next_digits (.inr rfl), hread, lexNumber, hdigits]
    rfl
  | @atSymbol _ hrest =>
    refine ⟨'@', rest, rfl, ?_⟩
    cases rest with
    | nil => rw [next_at, lexAt]
    | cons c rest =>
      obtain ⟨hc, hd⟩ := hrest c rfl
      simp only [List.mem_cons, List.not_mem_nil, or_false, not_or] at hc hd
      rw [next_at, lexAt]
      · rw [if_neg]
        intro hif
        obtain ⟨hmysql, hc'⟩ : d = .mysql ∧ c ∉ [' ', '\'', '"', '\x60'] := by
          simpa [and_assoc] using hif
        exact hc' (by simpa using hd hmysql)
      all_goals simp [hc]
  | @doubleAt _ hrest =>
    refine ⟨'@', '@' :: rest, rfl, ?_⟩
    rw [next_at]
    cases rest with
    | nil => rw [lexAt]
    | cons c rest =>
      by_cases hc : c = ' '
      · simp [hc, lexAt]
      · have hd : d ≠ .mysql := fun hd => hc (by simpa using hrest hd)
        simp [lexAt, hd]
  | @atOperator c hc _ =>
    refine ⟨'@', c :: rest, rfl, ?_⟩
    rw [next_at]
    rcases hc with rfl | rfl <;> rfl
  | @question hd c hc _ =>
    refine ⟨'?', c :: rest, rfl, ?_⟩
    rw [hquestion]
    simp [lexSymbol.lexQuestion, hd, hc]
  | lastQuestion hd => exact ⟨'?', [], rfl, by rw [hquestion, hd]; rfl⟩
  | @questionOperator hd c hc _ =>
    refine ⟨'?', c :: rest, rfl, ?_⟩
    rw [hquestion, hd]
    rcases hc with rfl | rfl <;> rfl
  | @operator c hc hc' more run _ hcomment hmore hstop hrun =>
    refine ⟨c, more ++ (run ++ rest), by simp, ?_⟩
    have hat : c ∉ ['@'] := notMem_of_class (by cases d <;> decide) hc
    have hnamed : c ∉ ['(', ')', '@', '?'] := by
      simp only [List.mem_cons, List.not_mem_nil, or_false, not_or] at hat hc' ⊢
      exact ⟨hc'.1, hc'.2.1, hat, hc'.2.2⟩
    rw [next_symbol hc hcomment,
      (lexSymbol_eq_iff hnamed).mpr ⟨more, run, rfl, hmore, hstop, hrun, rfl⟩]

/-- Every spelling is read. -/
lemma Spells.next_eq {t : SqlToken} {source rest : List Char} (h : Spells d t source rest) :
    ∃ c cs, source ++ rest = c :: cs ∧ next d c cs = .ok (t, rest) := by
  cases h with
  | @blank c hc hword _ hrest => exact ⟨c, rest, rfl, next_blank hc hword hrest⟩
  | newline => exact ⟨'\r', '\n' :: rest, rfl, next_newline⟩
  | comment h => exact h.next_eq
  | word h => exact h.next_eq
  | literal h => exact h.next_eq
  | number h hrest =>
    obtain ⟨c, cs, hcs, hnext⟩ := h.next_eq
    exact ⟨c, cs, hcs, by rw [hnext, lexLong_plain hrest]⟩
  | longNumber h =>
    obtain ⟨c, cs, hcs, hnext⟩ := h.next_eq
    refine ⟨c, cs, by rw [← hcs]; simp, by rw [hnext]; rfl⟩
  | @question hd numbers _ h hrest =>
    refine ⟨'?', numbers ++ rest, rfl, ?_⟩
    rw [next_single (by decide), lexSymbol]
    simp [lexSymbol.lexQuestion, hd, takeWhile_run h hrest, dropWhile_run h hrest]
  | @dollar hd tag _ htag hrest =>
    refine ⟨'$', tag ++ rest, rfl, ?_⟩
    have hstop : Stops isTagChar rest := fun c hc => by
      have hboth := hrest c hc
      simp only [Bool.or_eq_false_iff] at hboth
      exact hboth.1
    rw [next_dollar hd, lexDollar_eq, takeWhile_run htag hstop, dropWhile_run htag hstop,
      readTagged]
    rintro more rfl
    simp at hrest
  | openParen =>
    refine ⟨'(', rest, rfl, ?_⟩
    rw [next_single (by decide), lexSymbol]
  | closeParen =>
    refine ⟨')', rest, rfl, ?_⟩
    rw [next_single (by decide), lexSymbol]
  | symbol h => exact h.next_eq

/-- The reader takes exactly the token that is spelled at the start of a text. -/
theorem next_eq_iff {t : SqlToken} {rest : List Char} :
    next d c cs = .ok (t, rest) ↔ ∃ source, c :: cs = source ++ rest ∧ Spells d t source rest := by
  constructor
  · exact spells_of_next
  · rintro ⟨source, hcs, h⟩
    obtain ⟨c', cs', hcs', hnext⟩ := h.next_eq
    obtain ⟨rfl, rfl⟩ := List.cons.inj (hcs.trans hcs')
    exact hnext

/-- A text begins with one token only. -/
lemma Spells.unique {t t' : SqlToken} {source source' rest rest' : List Char}
    (h : Spells d t source rest) (h' : Spells d t' source' rest')
    (heq : source ++ rest = source' ++ rest') : t = t' ∧ source = source' ∧ rest = rest' := by
  obtain ⟨c, cs, hcs, hnext⟩ := h.next_eq
  obtain ⟨c', cs', hcs', hnext'⟩ := h'.next_eq
  obtain ⟨rfl, rfl⟩ := List.cons.inj ((hcs.symm.trans heq).trans hcs')
  obtain ⟨rfl, rfl⟩ := Prod.mk.inj (Except.ok.inj (hnext.symm.trans hnext'))
  exact ⟨rfl, List.append_cancel_right heq, rfl⟩

/-! ### The tokens of a text -/

/-- Tokens make up a text, each spelled in front of those after it. -/
inductive Lexes (d : Dialect) : List (SqlToken × List Char) → List Char → Prop where
  | nil : Lexes d [] []
  | cons {t : SqlToken} {source rest : List Char} (h : Spells d t source rest)
      {ls : List (SqlToken × List Char)} (hrest : Lexes d ls rest) :
      Lexes d ((t, source) :: ls) (source ++ rest)

lemma isLineComment_ne_nil {opening : List Char} (h : Binding.IsLineComment d opening) :
    opening ≠ [] := by
  rcases h with rfl | ⟨-, rfl⟩ <;> simp

lemma Spells.source_ne_nil {t : SqlToken} {source rest : List Char} (h : Spells d t source rest) :
    source ≠ [] := by
  have hnumeral : ∀ text rest, Numeral d text rest → text ≠ [] := by
    intro text rest h
    cases h with
    | plain _ hne => exact hne.1
    | scientific _ hne => simp [hne.1]
  cases h with
  | comment h =>
    cases h with
    | lastLine ho => simp [isLineComment_ne_nil ho]
    | _ => simp
  | word h =>
    cases h with
    | digits _ _ hne => simp [hne.1]
    | _ => simp
  | literal h => cases h <;> simp
  | number h => exact hnumeral _ _ h
  | symbol h => cases h <;> simp
  | _ => simp

lemma lexes_nil_iff {ls : List (SqlToken × List Char)} : Lexes d ls [] ↔ ls = [] := by
  constructor
  · intro h
    generalize hcs : ([] : List Char) = cs at h
    cases h with
    | nil => rfl
    | cons h _ => exact absurd (List.append_eq_nil_iff.mp hcs.symm).1 h.source_ne_nil
  · rintro rfl
    exact .nil

/-- The spellings of the tokens make up the text. -/
lemma Lexes.flatMap_source {ls : List (SqlToken × List Char)} {cs : List Char}
    (h : Lexes d ls cs) : ls.flatMap Prod.snd = cs := by
  induction h with
  | nil => rfl
  | cons _ _ ih => rw [List.flatMap_cons, ih]

lemma lexWithin_nil (budget : Nat) : lexWithin d budget [] = .ok [] := by
  cases budget <;> rfl

lemma lexWithin_eq_ok_iff {budget : Nat} {ts : List SqlToken} (h : cs.length ≤ budget) :
    lexWithin d budget cs = .ok ts ↔ ∃ ls, Lexes d ls cs ∧ ls.map Prod.fst = ts := by
  induction budget generalizing cs ts with
  | zero =>
    obtain rfl : cs = [] := by simpa using h
    simp [lexWithin_nil, lexes_nil_iff, eq_comm]
  | succ budget ih =>
    cases cs with
    | nil => simp [lexWithin_nil, lexes_nil_iff, eq_comm]
    | cons c cs =>
      have hlength : ∀ source rest : List Char, source ≠ [] → c :: cs = source ++ rest →
          rest.length ≤ budget := by
        intro source rest hne hcs
        have hlen := congrArg List.length hcs
        have hpos := List.length_pos_iff.mpr hne
        rw [List.length_append] at hlen
        omega
      rw [lexWithin]
      constructor
      · intro hread
        cases hnext : next d c cs with
        | error reason => simp [hnext] at hread
        | ok result =>
          obtain ⟨t, rest⟩ := result
          obtain ⟨source, hcs, hspells⟩ := next_eq_iff.mp hnext
          simp only [hnext] at hread
          cases hrest : lexWithin d budget rest with
          | error reason => simp [hrest, Except.map] at hread
          | ok ts' =>
            obtain ⟨ls, hlexes, rfl⟩ :=
              (ih (hlength source rest hspells.source_ne_nil hcs)).mp hrest
            obtain rfl : t :: ls.map Prod.fst = ts := by simpa [hrest, Except.map] using hread
            rw [hcs]
            exact ⟨(t, source) :: ls, .cons hspells hlexes, rfl⟩
      · rintro ⟨ls, hlexes, rfl⟩
        generalize htext : c :: cs = text at hlexes
        cases hlexes with
        | nil => cases htext
        | @cons t source rest hspells ls hlexes =>
          have hrest := (ih (hlength source rest hspells.source_ne_nil htext)).mpr ⟨ls, hlexes, rfl⟩
          simp [next_eq_iff.mpr ⟨source, htext, hspells⟩, hrest, Except.map]

/-- A text has the tokens that make it up, if any do. -/
theorem ofText_eq_ok_iff {ts : List SqlToken} :
    ofText d cs = .ok ts ↔ ∃ ls, Lexes d ls cs ∧ ls.map Prod.fst = ts :=
  lexWithin_eq_ok_iff (Nat.le_refl _)

/-! ### Tokens with their spellings -/

/-- The tokens at the start of a text, each with the text it was read from. -/
def lexemesWithin (d : Dialect) : (budget : Nat) → List Char → List (SqlToken × List Char)
  | budget + 1, c :: cs =>
    match next d c cs with
    | .ok (t, rest) =>
      (t, (c :: cs).take ((c :: cs).length - rest.length)) :: lexemesWithin d budget rest
    | .error _ => []
  | _, _ => []

/-- The tokens of a readable text, each with the text it was read from. -/
def lexemes (d : Dialect) (cs : List Char) : List (SqlToken × List Char) :=
  lexemesWithin d cs.length cs

lemma Lexes.lexemesWithin_eq {ls : List (SqlToken × List Char)} {cs : List Char}
    (h : Lexes d ls cs) {budget : Nat} (hbudget : cs.length ≤ budget) :
    lexemesWithin d budget cs = ls := by
  induction h generalizing budget with
  | nil => cases budget <;> rfl
  | @cons t source rest hspells ls _ ih =>
    have hpos := List.length_pos_iff.mpr hspells.source_ne_nil
    rw [List.length_append] at hbudget
    obtain ⟨budget, rfl⟩ := Nat.exists_eq_add_one.mpr (show 0 < budget by omega)
    obtain ⟨c, cs, hcs, hnext⟩ := hspells.next_eq
    have hsource : (source ++ rest).take ((source ++ rest).length - rest.length) = source := by
      simp
    rw [hcs] at hsource ⊢
    simp only [lexemesWithin, hnext, hsource, ih (show rest.length ≤ budget by omega)]

/-- A text is read as the tokens that make it up. -/
theorem Lexes.lexemes_eq {ls : List (SqlToken × List Char)} {cs : List Char} (h : Lexes d ls cs) :
    lexemes d cs = ls :=
  h.lexemesWithin_eq (Nat.le_refl _)

end QueryLoom.SqlToken

import QueryLoom.Proofs.Tokens.FirstChar

/-!
# What the readers take

Each reader takes a spelling of the token that it returns.
-/

namespace QueryLoom.SqlToken

variable {d : Dialect} {c : Char} {cs : List Char}

/-! ### Words -/

lemma lexWord_eq_iff {start cs rest : List Char} {t : SqlToken} :
    lexWord d start cs = (t, rest) ↔ ∃ more, cs = more ++ rest ∧
      (∀ e ∈ more, continuesWord d e = true) ∧ Stops (continuesWord d) rest ∧
      t = .word (start ++ more) := by
  rw [lexWord, Prod.mk.injEq]
  constructor
  · rintro ⟨rfl, hdrop⟩
    obtain ⟨hcs, hmore, hrest⟩ := span_eq_iff.mp ⟨rfl, hdrop⟩
    exact ⟨_, hcs, hmore, hrest, rfl⟩
  · rintro ⟨more, hcs, hmore, hrest, rfl⟩
    obtain ⟨htake, hdrop⟩ := span_eq_iff.mpr ⟨hcs, hmore, hrest⟩
    exact ⟨by rw [htake], hdrop⟩

lemma lexAt_spells {rest : List Char} {t : SqlToken} (h : lexAt d cs = (t, rest)) :
    ∃ source, '@' :: cs = source ++ rest ∧ Spells d t source rest := by
  unfold lexAt at h
  split at h
  · cases h
    exact ⟨['@', '>'], rfl, .symbol (.atOperator (.inl rfl) _)⟩
  · cases h
    exact ⟨['@', '?'], rfl, .symbol (.atOperator (.inr rfl) _)⟩
  · cases h
    exact ⟨['@', '@'], rfl, .symbol (.doubleAt fun _ => by simp)⟩
  · next c more hspace =>
    split at h
    · next hd =>
      obtain ⟨more', rfl, hmore, hrest, rfl⟩ := lexWord_eq_iff.mp h
      exact ⟨'@' :: '@' :: c :: more', rfl,
        .word (.systemVariable (eq_of_beq hd) hspace hmore hrest)⟩
    · next hd =>
      cases h
      exact ⟨['@', '@'], rfl, .symbol (.doubleAt fun hd' => absurd hd' (by simpa using hd))⟩
  · cases h
    exact ⟨['@', '@'], rfl, .symbol (.doubleAt fun _ => by simp)⟩
  · next c more hgreater hquestion hspace hnext hlast =>
    have hat : c ≠ '@' := fun hc => by
      cases more with
      | nil => exact hlast hc rfl
      | cons e more => exact hnext e more hc rfl
    have hc : c ∉ ['>', '?', '@'] := by
      simp only [List.mem_cons, List.not_mem_nil, or_false, not_or]
      exact ⟨hgreater, hquestion, hat⟩
    split at h
    · next hd =>
      obtain ⟨rfl, hc'⟩ : d = .mysql ∧ c ∉ [' ', '\'', '"', '\x60'] := by simpa [and_assoc] using hd
      obtain ⟨more', rfl, hmore, hrest, rfl⟩ := lexWord_eq_iff.mp h
      exact ⟨'@' :: c :: more', rfl, .word (.userVariable rfl hc hc' hmore hrest)⟩
    · next hd =>
      cases h
      refine ⟨['@'], rfl, .symbol (.atSymbol ?_)⟩
      rintro e he
      obtain rfl : c = e := by simpa using he
      refine ⟨hc, ?_⟩
      rintro rfl
      by_contra hc'
      exact hd (by simpa [and_assoc] using hc')
  · cases h
    exact ⟨['@'], rfl, .symbol (.atSymbol (by simp))⟩

/-! ### Numbers -/

lemma lexLong_spells {digits cs rest : List Char} {t : SqlToken} (hdigits : Numeral d digits cs)
    (h : lexNumber.lexLong digits cs = (t, rest)) :
    ∃ source, digits ++ cs = source ++ rest ∧ Spells d t source rest := by
  unfold lexNumber.lexLong at h
  split at h
  · cases h
    exact ⟨digits ++ ['L'], by simp, .longNumber hdigits⟩
  · next hL =>
    cases h
    refine ⟨digits, rfl, .number hdigits fun c hc => ?_⟩
    obtain ⟨more, rfl⟩ := List.head?_eq_some_iff.mp hc
    have hc : c ≠ 'L' := fun hc => hL more (by rw [hc])
    simpa using hc

/-- What does not begin like a hexadecimal number. -/
lemma Decimal.lexDigits_eq {digits rest : List Char} (h : Decimal digits rest)
    (hhex : digits = ['0'] → Stops (· == 'x') rest) (hne : digits ≠ []) :
    lexDigits d (digits ++ rest) = lexNumber d (digits ++ rest) := by
  unfold lexDigits
  split
  · next more hcs =>
    exfalso
    cases digits with
    | nil => exact hne rfl
    | cons c digits =>
      obtain ⟨rfl, hrest⟩ := List.cons.inj hcs
      cases digits with
      | nil =>
        obtain rfl : rest = 'x' :: more := hrest
        simpa using hhex rfl
      | cons e digits =>
        obtain ⟨rfl, -⟩ := List.cons.inj hrest
        have hx := h.forall_mem 'x' (by simp)
        exact absurd hx (by decide)
  · rfl

lemma lexNumber_spells {digits more rest : List Char} {t : SqlToken} (hdigits : Decimal digits more)
    (hne : digits ≠ []) (hhex : digits = ['0'] → Stops (· == 'x') more)
    (h : lexNumber d (digits ++ more) = (t, rest)) :
    ∃ source, digits ++ more = source ++ rest ∧ Spells d t source rest := by
  simp only [lexNumber, hdigits.readDigits_eq] at h
  split at h
  · next hpoint =>
    obtain rfl : digits = ['.'] := by simpa using hpoint
    cases h
    exact ⟨['.'], rfl, .symbol (.point hdigits.stops)⟩
  · next hpoint =>
    have hne' : digits ≠ [] ∧ digits ≠ ['.'] := ⟨hne, by simpa using hpoint⟩
    split at h
    · next exponent after hexponent =>
      obtain ⟨rfl, he, hstop⟩ := exponent?_eq_some_iff.mp hexponent
      rw [← List.append_assoc]
      exact lexLong_spells (.scientific hdigits hne' he hstop) h
    · next hexponent =>
      split at h
      · next hword =>
        obtain ⟨⟨rfl, he⟩, hne''⟩ : (d = .mysql ∧ startsExponent more = false) ∧
            more.takeWhile (continuesWord d) ≠ [] := by simpa using hword
        cases h
        generalize htake : more.takeWhile (continuesWord .mysql) = tail at hne'' ⊢
        generalize hdrop : more.dropWhile (continuesWord .mysql) = after
        obtain ⟨rfl, htail, hafter⟩ := span_eq_iff.mp ⟨htake, hdrop⟩
        exact ⟨digits ++ tail, by rw [List.append_assoc],
          .word (.digits rfl hdigits hne' hhex he hne'' htail hafter)⟩
      · next hword =>
        refine lexLong_spells (.plain hdigits hne' hhex hexponent ?_) h
        rintro rfl
        by_cases he : startsExponent more = true
        · exact .inl he
        · exact .inr (stops_of_takeWhile (by simpa [he] using hword))

lemma lexDigits_spells {rest : List Char} {t : SqlToken} (hc : Text.isAsciiDigit c = true ∨ c = '.')
    (h : lexDigits d (c :: cs) = (t, rest)) :
    ∃ source, c :: cs = source ++ rest ∧ Spells d t source rest := by
  unfold lexDigits at h
  split at h
  · next more hhex =>
    cases h
    refine ⟨'0' :: 'x' :: more.takeWhile isHex, ?_,
      .literal (.hex (fun _ => List.mem_takeWhile_imp) (stops_dropWhile isHex more))⟩
    rw [List.cons_append, List.cons_append, List.takeWhile_append_dropWhile]
    exact hhex
  · next hhex =>
    obtain ⟨hcs, hdigits⟩ := decimal_readDigits (c :: cs)
    rw [hcs] at h ⊢
    refine lexNumber_spells hdigits (hdigits.ne_nil hcs.symm hc) ?_ h
    intro hzero e he
    obtain ⟨more, hmore⟩ := List.head?_eq_some_iff.mp he
    rw [hzero, hmore] at hcs
    have hne : e ≠ 'x' := fun hx => hhex more (by rw [hcs, hx]; rfl)
    simpa using hne

/-! ### Literals -/

lemma lexString_eq_iff {lead : List Char} {quote : Char} {escapes : Bool} (hquote : quote ≠ '\\')
    {rest : List Char} {t : SqlToken} :
    lexString lead quote escapes cs = .ok (t, rest) ↔ ∃ text, cs = text ++ quote :: rest ∧
      Inside escapes quote text ∧ rest.head? ≠ some quote ∧ t = .string lead quote text := by
  unfold lexString
  constructor
  · intro h
    split at h
    · next text more hread =>
      cases h
      obtain ⟨hinside, hhead, hcs⟩ := inside_of_readQuoted? hread
      exact ⟨text, hcs, hinside, hhead, rfl⟩
    · cases h
  · rintro ⟨text, rfl, hinside, hhead, rfl⟩
    rw [hinside.readQuoted?_eq hquote hhead]

lemma lexLetter_spells {rest : List Char} {t : SqlToken} (hc : Text.isAsciiLetter c = true)
    (h : lexLetter d c cs = .ok (t, rest)) :
    ∃ source, c :: cs = source ++ rest ∧ Spells d t source rest := by
  have hword : announcesString d (c :: cs) = false → lexWord d [c] cs = (t, rest) →
      ∃ source, c :: cs = source ++ rest ∧ Spells d t source rest := by
    intro hannounces hread
    obtain ⟨more, rfl, hmore, hrest, rfl⟩ := lexWord_eq_iff.mp hread
    refine ⟨c :: more, rfl,
      .word (.bare (startsWord_of_isAsciiLetter d hc) ?_ hmore hrest hannounces)⟩
    rintro rfl
    exact absurd hc (by decide)
  unfold lexLetter at h
  split at h
  · next more hupper =>
    split at h
    · next hd =>
      refine hword ?_ (Except.ok.inj h)
      simp [announcesString, hupper, eq_of_beq hd]
    · next hd =>
      obtain ⟨text, rfl, hinside, hhead, rfl⟩ := (lexString_eq_iff (by decide)).mp h
      exact ⟨c :: '\'' :: (text ++ ['\'']), by simp,
        .literal (.bits (by simpa using hd) hupper (.inl rfl) hinside hhead)⟩
  · next more hupper =>
    split at h
    · next hd =>
      refine hword ?_ (Except.ok.inj h)
      simp [announcesString, hupper, eq_of_beq hd]
    · next hd =>
      obtain ⟨text, rfl, hinside, hhead, rfl⟩ := (lexString_eq_iff (by decide)).mp h
      exact ⟨c :: '"' :: (text ++ ['"']), by simp,
        .literal (.bits (by simpa using hd) hupper (.inr rfl) hinside hhead)⟩
  · next more hupper =>
    obtain ⟨text, rfl, hinside, hhead, rfl⟩ := (lexString_eq_iff (by decide)).mp h
    have hliteral := Literal.marked (d := d) (.inl hupper) hinside hhead
    rw [hupper] at hliteral
    exact ⟨c :: '\'' :: (text ++ ['\'']), by simp, .literal hliteral⟩
  · next more hupper =>
    obtain ⟨text, rfl, hinside, hhead, rfl⟩ := (lexString_eq_iff (by decide)).mp h
    have hliteral := Literal.marked (d := d) (.inr hupper) hinside hhead
    rw [hupper] at hliteral
    exact ⟨c :: '\'' :: (text ++ ['\'']), by simp, .literal hliteral⟩
  · next more hupper =>
    split at h
    · next text after hread =>
      cases h
      obtain ⟨raw, rfl, -, -⟩ := decoded_of_readEscaped? hread
      exact ⟨c :: '\'' :: (raw ++ ['\'']), by simp, .literal (.escaped hupper hread)⟩
    · cases h
  · next more hupper =>
    split at h
    · next hd =>
      split at h
      · next text after hread =>
        cases h
        obtain ⟨raw, rfl, -, -⟩ := decoded_of_readNumbered? hread
        exact ⟨c :: '&' :: '\'' :: (raw ++ ['\'']), by simp,
          .literal (.numbered (eq_of_beq hd) hupper hread)⟩
      · cases h
    · next hd =>
      refine hword ?_ (Except.ok.inj h)
      simp [announcesString, hupper, hd]
  · next hB hB' hN hX hE hU =>
    refine hword ?_ (Except.ok.inj h)
    unfold announcesString
    split
    · next heq =>
      obtain ⟨rfl, rfl⟩ := List.cons.inj heq
      simpa using ⟨⟨fun hc => hN _ hc rfl, fun hc => hX _ hc rfl, fun hc => hE _ hc rfl⟩,
        fun hc => absurd rfl (hB _ hc)⟩
    · next heq =>
      obtain ⟨rfl, rfl⟩ := List.cons.inj heq
      simpa using fun hc => absurd rfl (hB' _ hc)
    · next heq =>
      obtain ⟨rfl, rfl⟩ := List.cons.inj heq
      simpa using fun hc => absurd rfl (hU _ hc)
    · rfl

/-- What the reader does after a dollar sign and a tag. -/
def readTagged (tag : List Char) : List Char → Except String (SqlToken × List Char)
  | '$' :: rest =>
    match Text.cutAt? ('$' :: (tag ++ ['$'])) rest with
    | some (text, rest) => .ok (.dollarString tag text, rest)
    | none => .error "unterminated dollar-quoted string"
  | rest => .ok (.placeholder ('$' :: tag), rest)

lemma lexDollar_eq (cs : List Char) :
    lexDollar cs = readTagged (cs.takeWhile isTagChar) (cs.dropWhile isTagChar) := by
  unfold lexDollar
  split
  · next rest =>
    have hdollar : isTagChar '$' = false := by decide
    rw [List.takeWhile_cons_of_neg (by simp [hdollar]),
      List.dropWhile_cons_of_neg (by simp [hdollar])]
    rfl
  · rfl

lemma readTagged_spells (hd : d ≠ .mysql) {tag after rest : List Char} {t : SqlToken}
    (htag : ∀ c ∈ tag, isTagChar c = true) (hstop : Stops isTagChar after)
    (h : readTagged tag after = .ok (t, rest)) :
    ∃ source, '$' :: (tag ++ after) = source ++ rest ∧ Spells d t source rest := by
  unfold readTagged at h
  split at h
  · split at h
    · next text more hread =>
      cases h
      obtain ⟨rfl, hany⟩ := cutAt?_spec hread
      exact ⟨'$' :: (tag ++ '$' :: (text ++ '$' :: (tag ++ ['$']))), by simp,
        .literal (.dollars hd htag (by simpa using hany) _)⟩
    · cases h
  · next hdollar =>
    cases h
    refine ⟨'$' :: tag, rfl, .dollar hd htag fun c hc => ?_⟩
    obtain ⟨more, rfl⟩ := List.head?_eq_some_iff.mp hc
    have hne : c ≠ '$' := fun hc => hdollar more (by rw [hc])
    simpa [hne] using hstop

/-! ### Symbols -/

lemma lexQuestion_spells {rest : List Char} {t : SqlToken}
    (h : lexSymbol.lexQuestion d cs = (t, rest)) :
    ∃ source, '?' :: cs = source ++ rest ∧ Spells d t source rest := by
  unfold lexSymbol.lexQuestion at h
  split at h
  · next hd =>
    have hd := eq_of_beq hd
    split at h
    · cases h
      exact ⟨['?', '|'], rfl, .symbol (.questionOperator hd (.inl rfl) _)⟩
    · cases h
      exact ⟨['?', '&'], rfl, .symbol (.questionOperator hd (.inr rfl) _)⟩
    · next hbar hand =>
      cases h
      cases cs with
      | nil => exact ⟨['?'], rfl, .symbol (.lastQuestion hd)⟩
      | cons c cs =>
        exact ⟨['?', c], rfl, .symbol (.question hd
          ⟨fun hc => hbar cs (by rw [hc]), fun hc => hand cs (by rw [hc])⟩ _)⟩
  · next hd =>
    cases h
    exact ⟨'?' :: cs.takeWhile Text.isNumber, by simp,
      .question (by simpa using hd) (fun _ => List.mem_takeWhile_imp) (stops_dropWhile _ _)⟩

lemma lexSymbol_spells {rest : List Char} {t : SqlToken} (hc : startsSymbol d c = true)
    (hcomment : ¬ OpensComment d (c :: cs)) (h : lexSymbol d c cs = (t, rest)) :
    ∃ source, c :: cs = source ++ rest ∧ Spells d t source rest := by
  by_cases hspecial : c = '(' ∨ c = ')' ∨ c = '?'
  · rcases hspecial with rfl | rfl | rfl
    · rw [lexSymbol] at h
      cases h
      exact ⟨['('], rfl, .openParen _⟩
    · rw [lexSymbol] at h
      cases h
      exact ⟨[')'], rfl, .closeParen _⟩
    · rw [lexSymbol] at h
      exact lexQuestion_spells h
  · have hat : c ∉ ['@'] := notMem_of_class (by cases d <;> decide) hc
    have hnamed : c ∉ ['(', ')', '@', '?'] := by
      simp only [List.mem_cons, List.not_mem_nil, or_false, not_or] at hat hspecial ⊢
      exact ⟨hspecial.1, hspecial.2.1, hat, hspecial.2.2⟩
    have hnamed' : c ∉ ['(', ')', '?'] := by simpa using hspecial
    obtain ⟨more, run, rfl, hgrows, hstop, hrun, rfl⟩ := (lexSymbol_eq_iff hnamed).mp h
    exact ⟨c :: (more ++ run), by simp,
      .symbol (.operator hc hnamed' hcomment hgrows hstop hrun)⟩

/-! ### Comments -/

lemma readLine_comment {opening : List Char} (ho : Binding.IsLineComment d opening)
    (cs : List Char) : ∃ source, opening ++ cs = source ++ (readLine (endsLine d) cs).2 ∧
      Spells d (.lineComment opening (readLine (endsLine d) cs).1) source
        (readLine (endsLine d) cs).2 := by
  rcases readLine_spec (endsLine d) cs with hall | ⟨body, e, rest, hbody, he, rfl⟩
  · rw [readLine_last hall]
    exact ⟨opening ++ cs, by simp, .comment (.lastLine ho hall)⟩
  · rw [readLine_ended hbody he]
    exact ⟨opening ++ (body ++ [e]), by simp, .comment (.line ho hbody he rest)⟩

lemma lexComment?_spells {rest : List Char} {t : SqlToken}
    (h : lexComment? d c cs = some (.ok (t, rest))) :
    ∃ source, c :: cs = source ++ rest ∧ Spells d t source rest := by
  unfold lexComment? at h
  split at h
  · next more =>
    cases h
    exact readLine_comment (.inl rfl) more
  · split at h
    · next hd =>
      cases h
      exact readLine_comment (.inr ⟨by simpa using hd, rfl⟩) cs
    · cases h
  · next more =>
    split at h
    · next body after hread =>
      cases h
      obtain ⟨rfl, hlast, hany⟩ := readBlock?_spec hread
      obtain ⟨body, rfl⟩ : ∃ front, body = front ++ ['*'] := by
        obtain ⟨_ | ⟨c, front⟩, hfront⟩ := List.getLast?_eq_some_iff.mp hlast
        · simp at hfront
        · exact ⟨front, (List.cons.inj hfront).2⟩
      rw [List.dropLast_concat]
      exact ⟨'/' :: '*' :: (body ++ ['*', '/']), by simp, .comment (.block (by simpa using hany) _)⟩
    · cases h
  · cases h

/-- The reader takes spellings only. -/
lemma spells_of_next {rest : List Char} {t : SqlToken} (h : next d c cs = .ok (t, rest)) :
    ∃ source, c :: cs = source ++ rest ∧ Spells d t source rest := by
  have hblank : ∀ e, Text.isBlank e = true → startsWord d e = false →
      (e = '\r' → cs.head? ≠ some '\n') →
        ∃ source, e :: cs = source ++ cs ∧ Spells d .blank source cs :=
    fun e he hword hrest => ⟨[e], rfl, .blank he hword hrest⟩
  unfold next at h
  rw [ite_eq_iff] at h
  obtain ⟨hspace, h⟩ | ⟨-, h⟩ := h
  · cases h
    have hc : c = ' ' ∨ c = '\t' ∨ c = '\n' := by simpa [or_assoc] using hspace
    rcases hc with rfl | rfl | rfl
    all_goals exact hblank _ (by decide) (by cases d <;> decide) fun hr => absurd hr (by decide)
  rw [ite_eq_iff] at h
  obtain ⟨hcr, h⟩ | ⟨hcr, h⟩ := h
  · obtain rfl := eq_of_beq hcr
    split at h
    · cases h
      exact ⟨['\r', '\n'], rfl, .newline _⟩
    · next hline =>
      cases h
      refine hblank _ (by decide) (by cases d <;> decide) fun _ hhead => ?_
      obtain ⟨more, hmore⟩ := List.head?_eq_some_iff.mp hhead
      exact hline more hmore
  cases hcomment : lexComment? d c cs with
  | some result =>
    rw [hcomment] at h
    subst h
    exact lexComment?_spells hcomment
  | none =>
  rw [hcomment] at h
  rw [ite_eq_iff] at h
  obtain ⟨hletter, h⟩ | ⟨hletter, h⟩ := h
  · exact lexLetter_spells hletter h
  rw [ite_eq_iff] at h
  obtain ⟨hquote, h⟩ | ⟨hquote, h⟩ := h
  · obtain rfl := eq_of_beq hquote
    obtain ⟨text, rfl, hinside, hhead, rfl⟩ := (lexString_eq_iff (by decide)).mp h
    exact ⟨'\'' :: (text ++ ['\'']), by simp, .literal (.string (.inl rfl) hinside hhead)⟩
  rw [ite_eq_iff] at h
  obtain ⟨hopens, h⟩ | ⟨hopens, h⟩ := h
  · split at h
    · next text after hread =>
      cases h
      obtain ⟨hinside, hhead, rfl⟩ := inside_of_readQuoted? hread
      exact ⟨c :: (text ++ [closingQuote c]), by simp, .literal (.quotedWord hopens hinside hhead)⟩
    · cases h
  rw [ite_eq_iff] at h
  obtain ⟨hdouble, h⟩ | ⟨hdouble, h⟩ := h
  · obtain rfl := eq_of_beq hdouble
    obtain rfl : d = .mysql := by
      cases d with
      | mysql => rfl
      | postgres => exact absurd rfl hopens
      | sqlite => exact absurd rfl hopens
    obtain ⟨text, rfl, hinside, hhead, rfl⟩ := (lexString_eq_iff (by decide)).mp h
    exact ⟨'"' :: (text ++ ['"']), by simp, .literal (.string (.inr ⟨rfl, rfl⟩) hinside hhead)⟩
  rw [ite_eq_iff] at h
  obtain ⟨hdigit, h⟩ | ⟨hdigit, h⟩ := h
  · exact lexDigits_spells (by simpa using hdigit) (Except.ok.inj h)
  rw [ite_eq_iff] at h
  obtain ⟨hat, h⟩ | ⟨hat, h⟩ := h
  · obtain rfl := eq_of_beq hat
    exact lexAt_spells (Except.ok.inj h)
  rw [ite_eq_iff] at h
  obtain ⟨hword, h⟩ | ⟨hword, h⟩ := h
  · obtain ⟨more, rfl, hmore, hrest, rfl⟩ := lexWord_eq_iff.mp (Except.ok.inj h)
    exact ⟨c :: more, rfl, .word (.bare hword (by simpa using hat) hmore hrest
      (announcesString_eq_false (by simpa using hletter)))⟩
  rw [ite_eq_iff] at h
  obtain ⟨hdollar, h⟩ | ⟨hdollar, h⟩ := h
  · obtain rfl := eq_of_beq hdollar
    have hd : d ≠ .mysql := by
      rintro rfl
      exact hword (by decide)
    rw [lexDollar_eq] at h
    obtain ⟨source, hcs, hspells⟩ := readTagged_spells hd (fun _ => List.mem_takeWhile_imp)
      (stops_dropWhile isTagChar cs) h
    rw [List.takeWhile_append_dropWhile] at hcs
    exact ⟨source, hcs, hspells⟩
  rw [ite_eq_iff] at h
  obtain ⟨hb, h⟩ | ⟨hb, h⟩ := h
  · cases h
    exact hblank _ hb (by simpa using hword) fun hc => absurd hc (by simpa using hcr)
  refine lexSymbol_spells ?_ (not_opensComment hcomment) (Except.ok.inj h)
  obtain ⟨hdigit, hpoint⟩ : Text.isAsciiDigit c = false ∧ c ≠ '.' := by simpa using hdigit
  simp only [Bool.not_eq_true, beq_eq_false_iff_ne] at hquote hopens hdouble hat hword hdollar hb
  simp [startsSymbol, hquote, hopens, hdouble, hdigit, hpoint, hat, hword, hdollar, hb]

end QueryLoom.SqlToken

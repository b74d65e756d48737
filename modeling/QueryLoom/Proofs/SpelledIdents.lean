import QueryLoom.Proofs.Dml.Accepted

/-!
# Spelled identifiers

The language of identifiers as rules: parts between single dots, each of which is a plain word or a
name between two equal quotes, in which that quote is doubled. Reading accepts exactly these texts,
each has one cut into parts, and an identifier that was read or quoted reads back from what is
written in any dialect.
-/

namespace QueryLoom

namespace Ident

/-! ### The language -/

/-- A name between quotes, as it is spelled: every quote twice. -/
def spelledInside (quote : Char) (name : List Char) : List Char :=
  name.flatMap fun c => if c = quote then [quote, quote] else [c]

/-- The spellings of a part: a plain word begins with a letter or `_` and goes on with letters,
digits, `_` and `$`; quotes are of one kind and have something between them. -/
inductive Spells : IdentPart → List Char → Prop where
  | plain {c : Char} {cs : List Char} (hc : c.isAlpha ∨ c = '_')
      (hcs : ∀ x ∈ cs, x.isAlphanum ∨ x = '_' ∨ x = '$') :
      Spells (.plain (String.ofList (c :: cs))) (c :: cs)
  | quoted {quote : Char} {name : List Char} (hquote : quote = '"' ∨ quote = '\x60')
      (hname : name ≠ []) :
      Spells (.quoted (String.ofList name)) (quote :: spelledInside quote name ++ [quote])

/-- A text is cut into parts, each with its spelling, at single dots. -/
inductive IsCut : List (IdentPart × List Char) → List Char → Prop where
  | last {p : IdentPart} {spelling : List Char} (h : Spells p spelling) :
      IsCut [(p, spelling)] spelling
  | dot {p : IdentPart} {spelling rest : List Char} {cut : List (IdentPart × List Char)}
      (h : Spells p spelling) (hrest : IsCut cut rest) :
      IsCut ((p, spelling) :: cut) (spelling ++ '.' :: rest)

/-! ### Plain words -/

lemma isAsciiLetter_eq (c : Char) : Text.isAsciiLetter c = c.isAlpha := by
  rw [Bool.eq_iff_iff]
  unfold Text.isAsciiLetter Char.isAlpha Char.isUpper Char.isLower
  simp only [Bool.or_eq_true, Bool.and_eq_true, decide_eq_true_eq, Char.le_def, ge_iff_le]
  exact or_comm

lemma isAsciiDigit_eq (c : Char) : Text.isAsciiDigit c = c.isDigit := rfl

lemma isAsciiAlphanumeric_eq (c : Char) : Text.isAsciiAlphanumeric c = c.isAlphanum := by
  rw [Text.isAsciiAlphanumeric, isAsciiLetter_eq, isAsciiDigit_eq, Char.isAlphanum]

lemma notMem_of_isPlain {name : List Char} (h : isPlain name = true) {x : Char}
    (hx : isPlainChar x = false) : x ∉ name := by
  intro hmem
  rw [isPlainChar_of_isPlain h x hmem] at hx
  cases hx

lemma isPlainStart_iff (c : Char) : isPlainStart c = true ↔ c.isAlpha = true ∨ c = '_' := by
  rw [isPlainStart, isAsciiLetter_eq, Bool.or_eq_true, beq_iff_eq, or_comm]

lemma isPlainChar_iff (c : Char) :
    isPlainChar c = true ↔ c.isAlphanum = true ∨ c = '_' ∨ c = '$' := by
  rw [isPlainChar, isAsciiAlphanumeric_eq]
  simp only [Bool.or_eq_true, beq_iff_eq]
  tauto

lemma isPlain_iff (c : Char) (cs : List Char) :
    isPlain (c :: cs) = true ↔
      (c.isAlpha = true ∨ c = '_') ∧ ∀ x ∈ cs, x.isAlphanum = true ∨ x = '_' ∨ x = '$' := by
  simp only [isPlain, Bool.and_eq_true, List.all_eq_true, isPlainStart_iff, isPlainChar_iff]

/-! ### Quoted names -/

lemma doubled_eq (quote : Char) (name : List Char) :
    Text.doubled quote name = spelledInside quote name := by
  induction name with
  | nil => rfl
  | cons c name ih =>
    rw [Text.doubled, ih]
    split_ifs with hc <;> simp [spelledInside, hc]

/-- What is read up to a closing quote was spelled with doubled quotes, and no quote follows. -/
lemma eq_of_readEnclosed? {quote : Char} {cs name rest : List Char}
    (h : Text.readEnclosed? quote cs = some (name, rest)) :
    cs = spelledInside quote name ++ quote :: rest := by
  fun_induction Text.readEnclosed? quote cs generalizing name rest with
  | case1 => cases h
  | case2 =>
    cases h
    rfl
  | case3 => cases h
  | case4 cs ih =>
    obtain ⟨⟨name', rest'⟩, hread, heq⟩ := Option.map_eq_some_iff.mp h
    cases heq
    simp [ih hread, spelledInside]
  | case5 d rest' hd =>
    cases h
    rfl
  | case6 c d rest' hc ih =>
    obtain ⟨⟨name', rest'⟩, hread, heq⟩ := Option.map_eq_some_iff.mp h
    cases heq
    simp [ih hread, spelledInside, hc]

/-! ### Parts -/

lemma Spells.ne_nil {p : IdentPart} {spelling : List Char} (h : Spells p spelling) :
    spelling ≠ [] := by
  cases h <;> simp

lemma IsCut.ne_nil {cut : List (IdentPart × List Char)} {text : List Char} (h : IsCut cut text) :
    text ≠ [] := by
  cases h with
  | last h => exact h.ne_nil
  | dot h _ => simp [h.ne_nil]

lemma spells_of_readPart {text : String} {c : Char} {cs rest : List Char} {p : IdentPart}
    (h : readPart text c cs = .ok (p, rest)) :
    ∃ spelling, Spells p spelling ∧ c :: cs = spelling ++ rest := by
  unfold readPart at h
  split at h
  · next hquote =>
    split at h
    · cases h
    · next name rest' hread =>
      split at h
      · cases h
      · next hname =>
        cases h
        refine ⟨_, .quoted (by simpa [isQuote] using hquote) (by simpa using hname), ?_⟩
        simp [eq_of_readEnclosed? hread]
  · dsimp only at h
    split at h
    · next hplain =>
      cases h
      by_cases hc : c = '.'
      · simp [hc, isPlain] at hplain
      · rw [List.takeWhile_cons_of_pos (by simpa using hc)] at hplain ⊢
        obtain ⟨hstart, hchars⟩ := (isPlain_iff _ _).mp hplain
        refine ⟨_, .plain hstart hchars, ?_⟩
        rw [List.cons_append, List.takeWhile_append_dropWhile]
    · cases h

/-- A spelling that ends its text or stands before a dot is read as its part. -/
lemma readPart_of_spells {p : IdentPart} {spelling rest : List Char} (h : Spells p spelling)
    (hrest : ∀ c ∈ rest.head?, c = '.') (text : String) {c : Char} {cs : List Char}
    (hcs : spelling ++ rest = c :: cs) : readPart text c cs = .ok (p, rest) := by
  cases h with
  | @plain e es he hes =>
    obtain ⟨rfl, rfl⟩ : e = c ∧ es ++ rest = cs := by simpa using hcs
    have hplain : isPlain (e :: es) = true := (isPlain_iff e es).mpr ⟨he, hes⟩
    have hquote : isQuote e = false := by
      rw [Bool.eq_false_iff]
      exact fun hq => Dml.isPlainStart_ne_quote ((isPlainStart_iff e).mpr he) hq rfl
    have hword : ∀ x ∈ e :: es, decide (x ≠ '.') = true := fun x hx =>
      decide_eq_true (ne_of_isPlainChar (isPlainChar_of_isPlain hplain x hx)).1
    have hend : ∀ x ∈ rest.head?, decide (x ≠ '.') = false := fun x hx => by simp [hrest x hx]
    have hspan := Dml.span_append hword hend
    have hdrop := (Dml.span_append (fun x hx => hword x (List.mem_cons_of_mem e hx)) hend).2
    rw [List.cons_append] at hspan
    rw [readPart, hquote, if_neg Bool.false_ne_true]
    simp only [hspan.1, hdrop, hplain, if_true]
  | @quoted quote name hquote hname =>
    have hne : ∀ c ∈ rest.head?, c ≠ quote := by
      intro c hc hcq
      rw [hrest c hc] at hcq
      rcases hquote with rfl | rfl <;> exact absurd hcq (by decide)
    have hread := Dml.readEnclosed?_doubled hne name
    obtain ⟨rfl, rfl⟩ : quote = c ∧ spelledInside quote name ++ quote :: rest = cs := by
      simpa using hcs
    rw [← doubled_eq, readPart, if_pos (by simpa [isQuote] using hquote), hread]
    simp [hname]

/-! ### Texts -/

lemma readParts_last {text : String} {c : Char} {cs : List Char} {p : IdentPart}
    (h : readPart text c cs = .ok (p, [])) : readParts text c cs = .ok [p] := by
  rw [readParts]
  split <;> simp_all

lemma readParts_dot {text : String} {c d : Char} {cs rest : List Char} {p : IdentPart}
    (h : readPart text c cs = .ok (p, '.' :: d :: rest)) :
    readParts text c cs = (readParts text d rest).map (p :: ·) := by
  rw [readParts]
  split <;> simp_all

lemma readParts_of_isCut {cut : List (IdentPart × List Char)} {cs : List Char} (h : IsCut cut cs)
    (text : String) {c : Char} {cs' : List Char} (hcs : cs = c :: cs') :
    readParts text c cs' = .ok (cut.map Prod.fst) := by
  induction h generalizing c cs' with
  | last h => exact readParts_last (readPart_of_spells h (by simp) text (by simpa using hcs))
  | @dot p spelling rest cut h hrest ih =>
    obtain ⟨d, rest', rfl⟩ := List.exists_cons_of_ne_nil hrest.ne_nil
    have hpart : readPart text c cs' = .ok (p, '.' :: d :: rest') :=
      readPart_of_spells h (by simp) text hcs
    rw [readParts_dot hpart, ih rfl]
    rfl

lemma isCut_of_readParts {text : String} {c : Char} {cs : List Char} {parts : List IdentPart}
    (h : readParts text c cs = .ok parts) :
    ∃ cut, IsCut cut (c :: cs) ∧ cut.map Prod.fst = parts := by
  fun_induction readParts text c cs generalizing parts with
  | case1 => cases h
  | case2 c cs part hpart =>
    cases h
    obtain ⟨spelling, hspells, hcs⟩ := spells_of_readPart hpart
    rw [hcs, List.append_nil]
    exact ⟨_, .last hspells, rfl⟩
  | case3 c cs part d rest hpart ih =>
    cases hrest : readParts text d rest with
    | error fault => simp [hrest, Except.map] at h
    | ok others =>
      simp only [hrest, Except.map, Except.ok.injEq] at h
      subst h
      obtain ⟨spelling, hspells, hcs⟩ := spells_of_readPart hpart
      obtain ⟨cut, hcut, hothers⟩ := ih hrest
      rw [hcs]
      exact ⟨_, .dot hspells hcut, by simp [hothers]⟩
  | case4 => cases h
  | case5 => cases h

lemma parse_eq_ok {text : String} {id : Ident} :
    parse text = .ok id ↔
      '\x00' ∉ text.toList ∧ ∃ cut, IsCut cut text.toList ∧ cut.map Prod.fst = id.parts := by
  constructor
  · intro h
    unfold parse at h
    split at h
    · cases h
    · next c cs htext =>
      split at h
      · cases h
      · next hnul =>
        split at h
        · next parts hparts =>
          cases h
          rw [htext]
          exact ⟨by simpa using hnul, isCut_of_readParts hparts⟩
        · cases h
  · rintro ⟨hnul, cut, hcut, hparts⟩
    obtain ⟨c, cs, htext⟩ := List.exists_cons_of_ne_nil hcut.ne_nil
    have hread := readParts_of_isCut hcut text htext
    rw [hparts] at hread
    rw [htext] at hnul
    simp [parse, htext, hread, hnul]

/-! ### One cut only -/

lemma Spells.unique {p p' : IdentPart} {spelling spelling' rest rest' : List Char}
    (h : Spells p spelling) (h' : Spells p' spelling') (hrest : ∀ c ∈ rest.head?, c = '.')
    (hrest' : ∀ c ∈ rest'.head?, c = '.') (heq : spelling ++ rest = spelling' ++ rest') :
    p = p' ∧ spelling = spelling' ∧ rest = rest' := by
  have hne : spelling ++ rest ≠ [] := by simp [h.ne_nil]
  obtain ⟨c, cs, hcs⟩ := List.exists_cons_of_ne_nil hne
  have hread := readPart_of_spells h hrest "" hcs
  have hread' := readPart_of_spells h' hrest' "" (heq ▸ hcs)
  rw [hread] at hread'
  obtain ⟨rfl, rfl⟩ : p = p' ∧ rest = rest' := by simpa using hread'
  exact ⟨rfl, List.append_cancel_right heq, rfl⟩

/-- No part is spelled like another one with more behind it. -/
lemma Spells.unique_of_append {p p' : IdentPart} {spelling spelling' rest : List Char}
    (h : Spells p spelling) (h' : Spells p' spelling') (hrest : ∀ c ∈ rest.head?, c = '.')
    (heq : spelling = spelling' ++ rest) : p = p' ∧ rest = [] := by
  have hunique := h.unique h' (by simp) hrest ((List.append_nil spelling).trans heq)
  exact ⟨hunique.1, hunique.2.2.symm⟩

lemma IsCut.unique {cut cut' : List (IdentPart × List Char)} {text : List Char}
    (h : IsCut cut text) (h' : IsCut cut' text) : cut = cut' := by
  induction h generalizing cut' with
  | @last p spelling h =>
    cases h' with
    | last h' =>
      obtain ⟨rfl, -⟩ := h.unique_of_append h' (by simp) (List.append_nil spelling).symm
      rfl
    | dot h' hrest' => exact absurd (h.unique_of_append h' (by simp) rfl).2 (by simp)
  | @dot p spelling rest cut h hrest ih =>
    generalize htext : spelling ++ '.' :: rest = text at h'
    cases h' with
    | last h' => exact absurd (h'.unique_of_append h (by simp) htext.symm).2 (by simp)
    | dot h' hrest' =>
      obtain ⟨rfl, rfl, heq⟩ := h.unique h' (by simp) (by simp) htext
      rw [ih ((List.cons.inj heq).2 ▸ hrest')]

/-! ### Writing -/

lemma mem_spelledInside {quote : Char} {name : List Char} {c : Char} :
    c ∈ spelledInside quote name ↔ c ∈ name := by
  rw [spelledInside, List.mem_flatMap]
  constructor
  · rintro ⟨x, hx, hc⟩
    have hcx : c = x := by split at hc <;> simp_all
    exact hcx ▸ hx
  · intro hc
    exact ⟨c, hc, by split <;> simp_all⟩

lemma Spells.nul_mem {p : IdentPart} {spelling : List Char} (h : Spells p spelling) :
    '\x00' ∈ spelling ↔ '\x00' ∈ p.name.toList := by
  cases h with
  | plain => simp [IdentPart.name]
  | quoted hquote hname =>
    rcases hquote with rfl | rfl <;> simp [IdentPart.name, mem_spelledInside]

/-- A text has a NUL in it exactly if the name of one of its parts has. -/
lemma IsCut.nul_mem {cut : List (IdentPart × List Char)} {text : List Char} (h : IsCut cut text) :
    '\x00' ∈ text ↔ ∃ p ∈ cut.map Prod.fst, '\x00' ∈ p.name.toList := by
  induction h with
  | last h => simp [h.nul_mem]
  | dot h _ ih => simp [h.nul_mem, ih]

/-- A part is spelled by what is written in any dialect. -/
lemma Spells.toSql {p : IdentPart} {spelling : List Char} (h : Spells p spelling) (d : Dialect) :
    Spells p (p.toSql d).toList := by
  cases h with
  | plain hc hcs =>
    rw [IdentPart.toSql, String.toList_ofList]
    exact .plain hc hcs
  | quoted hquote hname =>
    have hd : d.identQuote = '"' ∨ d.identQuote = '\x60' := by cases d <;> decide
    rw [IdentPart.toSql, Dialect.quoteIdent, String.toList_ofList, String.toList_ofList,
      Text.enclosed, doubled_eq]
    exact .quoted hd hname

lemma IsCut.toSql {cut : List (IdentPart × List Char)} {text : List Char} (h : IsCut cut text)
    (d : Dialect) :
    IsCut (cut.map fun x => (x.1, (x.1.toSql d).toList))
      (Ident.toSql ⟨cut.map Prod.fst⟩ d).toList := by
  induction h with
  | last h => simpa [Ident.toSql] using IsCut.last (h.toSql d)
  | @dot p spelling rest cut h hrest ih =>
    have hwritten := IsCut.dot (h.toSql d) ih
    cases hcut : cut with
    | nil => rw [hcut] at hrest; cases hrest
    | cons x cut' =>
      rw [hcut] at hwritten
      simpa [Ident.toSql, String.intercalate_cons_cons] using hwritten

lemma parse_toSql {id : Ident} {cut : List (IdentPart × List Char)} {text : List Char}
    (hcut : IsCut cut text) (hparts : cut.map Prod.fst = id.parts) (hnul : '\x00' ∉ text)
    (d : Dialect) : parse (id.toSql d) = .ok id := by
  have hwritten := hcut.toSql d
  rw [hparts] at hwritten
  have hfst : (cut.map fun x => (x.1, (x.1.toSql d).toList)).map Prod.fst = id.parts := by
    rw [List.map_map, ← hparts]
    rfl
  refine parse_eq_ok.mpr ⟨?_, _, hwritten, hfst⟩
  rwa [hwritten.nul_mem, hfst, ← hparts, ← hcut.nul_mem]

lemma exists_cut_of_ofQuoted {name : String} {id : Ident} (h : ofQuoted name = .ok id) :
    ∃ cut text, IsCut cut text ∧ cut.map Prod.fst = id.parts ∧ '\x00' ∉ text := by
  unfold ofQuoted at h
  split at h
  · cases h
  · next hempty =>
    split at h
    · cases h
    · next hnul =>
      cases h
      have hname : name.toList ≠ [] := by simpa using hempty
      have hspells : Spells (.quoted (String.ofList name.toList))
          ('"' :: spelledInside '"' name.toList ++ ['"']) := .quoted (.inl rfl) hname
      rw [String.ofList_toList] at hspells
      refine ⟨_, _, .last hspells, rfl, ?_⟩
      rw [hspells.nul_mem]
      simpa [IdentPart.name] using hnul

/-! ### Identifiers -/

/-- Reading a text gives an identifier exactly if the text has no NUL and is cut into the parts of
the identifier. No text has two cuts. An identifier that was read or quoted reads back from what is
written in any dialect. -/
theorem parse_iff_spelled (text : String) (id : Ident) :
    (parse text = .ok id ↔
      '\x00' ∉ text.toList ∧ ∃ cut, IsCut cut text.toList ∧ cut.map Prod.fst = id.parts) ∧
    (∀ cut cut', IsCut cut text.toList → IsCut cut' text.toList → cut = cut') ∧
    (parse text = .ok id ∨ ofQuoted text = .ok id → ∀ d, parse (id.toSql d) = .ok id) := by
  refine ⟨parse_eq_ok, fun cut cut' h h' => h.unique h', ?_⟩
  rintro (h | h) d
  · obtain ⟨hnul, cut, hcut, hparts⟩ := parse_eq_ok.mp h
    exact parse_toSql hcut hparts hnul d
  · obtain ⟨cut, text, hcut, hparts, hnul⟩ := exists_cut_of_ofQuoted h
    exact parse_toSql hcut hparts hnul d

/-- Quotes of one kind are read and those of the other kind are written. -/
theorem parse_iff_spelled_mixed :
    parse "a$.\x60b\x60\x60.\"\x60" = .ok ⟨[.plain "a$", .quoted "b\x60.\""]⟩ ∧
      (∀ d, parse (toSql ⟨[.plain "a$", .quoted "b\x60.\""]⟩ d) =
        .ok ⟨[.plain "a$", .quoted "b\x60.\""]⟩) ∧
      toSql ⟨[.plain "a$", .quoted "b\x60.\""]⟩ .postgres = "a$.\"b\x60.\"\"\"" := by
  obtain ⟨hiff, -, hback⟩ := parse_iff_spelled "a$.\x60b\x60\x60.\"\x60"
    ⟨[.plain "a$", .quoted "b\x60.\""]⟩
  have hword : Spells (.plain "a$") ['a', '$'] :=
    @Spells.plain 'a' ['$'] (by simp) (by simp)
  have hname : Spells (.quoted "b\x60.\"") ['\x60', 'b', '\x60', '\x60', '.', '"', '\x60'] :=
    @Spells.quoted '\x60' ['b', '\x60', '.', '"'] (.inr rfl) (by simp)
  have hparse := hiff.mpr ⟨by decide, _, .dot hword (.last hname), rfl⟩
  exact ⟨hparse, hback (.inl hparse), by decide⟩

end Ident

end QueryLoom

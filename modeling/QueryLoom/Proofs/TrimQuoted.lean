import Mathlib.Data.List.DropRight
import QueryLoom.Markup.Trimming
import QueryLoom.Proofs.LetterCase

/-!
# Trimming around quotes

A quote is neither a blank nor a comma, it begins or ends a word on neither side, and no other
character is a quote in another case. What is trimmed in front of a text therefore ends before the
first quote, what is trimmed at its end begins after the last one, and what is rewritten inside is
rewritten between two quotes as if there were nothing else.
-/

namespace QueryLoom.Text

/-! ### Quotes and case -/

lemma toLower_eq_quote {c : Char} (h : c.toLower = '\'') : c = '\'' := by
  rcases toLower_cases c with hsame | ⟨-, hletter, -⟩
  · rwa [hsame] at h
  · rw [h] at hletter
    exact absurd hletter (by decide)

/-- No row of the table moves a character to the quote. -/
def MovesPastQuote (table : List Shift) : Prop :=
  ∀ row ∈ table, (0x27 : Int) < row.span.first + row.shift

lemma move_eq_quote {table : List Shift} (htable : MovesPastQuote table) {c : Char}
    (h : move table c = '\'') : c = '\'' := by
  unfold move at h
  split at h
  · next row hrow =>
    have hn : (c.toNat + row.shift).toNat = 0x27 :=
      toNat_ofNat_eq (by decide) (congrArg Char.toNat h)
    have hcontains := List.find?_some hrow
    have hfirst : row.span.first ≤ c.toNat := by
      simp only [Span.contains, Bool.and_eq_true, decide_eq_true_eq] at hcontains
      exact hcontains.1.1
    have hshift := htable row (List.mem_of_find?_eq_some hrow)
    omega
  · exact h

lemma foldCase_eq_quote {c : Char} (h : foldCase c = '\'') : c = '\'' := by
  have hcapital : MovesPastQuote capitalShifts := by unfold MovesPastQuote; decide +kernel
  have hsmall : MovesPastQuote smallShifts := by unfold MovesPastQuote; decide +kernel
  unfold foldCase at h
  split_ifs at h with hascii hdotless
  · exact toLower_eq_quote h
  · exact h
  · dsimp only at h
    split_ifs at h with hupper
    · exact move_eq_quote hcapital (toLower_eq_quote h)
    · exact move_eq_quote hcapital (move_eq_quote hsmall h)

/-- No other character is a quote up to case. -/
lemma sameIgnoringCase_quote {c : Char} (hc : c ≠ '\'') : sameIgnoringCase c '\'' = false := by
  have hquote : foldCase '\'' = '\'' := by decide
  rw [sameIgnoringCase, hquote, beq_eq_false_iff_ne]
  exact fun h => hc (foldCase_eq_quote h)

/-! ### Pieces -/

/-- A piece without quotes that stands in front of a quote ends before it. -/
lemma stripLead_append {piece : List Char} (hpiece : '\'' ∉ piece) (cs t : List Char) :
    stripLeadIgnoringCase? piece (cs ++ '\'' :: t)
      = (stripLeadIgnoringCase? piece cs).map (· ++ '\'' :: t) := by
  induction piece generalizing cs with
  | nil => rfl
  | cons l ls ih =>
    obtain ⟨hl, hls⟩ : '\'' ≠ l ∧ '\'' ∉ ls := by simpa using hpiece
    cases cs with
    | nil => simp [stripLeadIgnoringCase?, sameIgnoringCase_quote hl.symm]
    | cons c cs =>
      simp only [stripLeadIgnoringCase?, List.cons_append]
      split
      · exact ih hls cs
      · rfl

lemma exists_of_stripLead {piece : List Char} (hpiece : '\'' ∉ piece) {cs rest : List Char}
    (h : stripLeadIgnoringCase? piece cs = some rest) :
    ∃ found, cs = found ++ rest ∧ found.length = piece.length ∧ '\'' ∉ found := by
  induction piece generalizing cs with
  | nil => exact ⟨[], by simpa [stripLeadIgnoringCase?] using h, rfl, by simp⟩
  | cons l ls ih =>
    obtain ⟨hl, hls⟩ : '\'' ≠ l ∧ '\'' ∉ ls := by simpa using hpiece
    cases cs with
    | nil => simp [stripLeadIgnoringCase?] at h
    | cons c cs =>
      simp only [stripLeadIgnoringCase?] at h
      split at h
      · next hsame =>
        obtain ⟨found, rfl, hlength, hfound⟩ := ih hls h
        refine ⟨c :: found, rfl, by simp [hlength], ?_⟩
        have hc : '\'' ≠ c := by
          rintro rfl
          simp [sameIgnoringCase_quote hl.symm] at hsame
        simp [hc, hfound]
      · cases h

/-! ### Blanks -/

lemma trimStart_append (cs t : List Char) :
    trimStart (cs ++ '\'' :: t) = trimStart cs ++ '\'' :: t := by
  induction cs with
  | nil => rfl
  | cons c cs ih =>
    simp only [trimStart, List.cons_append, List.dropWhile_cons] at ih ⊢
    split
    · exact ih
    · rfl

lemma trimEnd_append (cs t : List Char) :
    trimEnd (cs ++ '\'' :: t) = cs ++ '\'' :: trimEnd t := by
  change List.rdropWhile isBlank (cs ++ '\'' :: t) = cs ++ '\'' :: List.rdropWhile isBlank t
  have hquote : ¬ isBlank '\'' = true := by decide
  induction t using List.reverseRecOn with
  | nil => exact List.rdropWhile_concat_neg isBlank cs '\'' hquote
  | append_singleton t c ih =>
    rw [← List.cons_append, ← List.append_assoc, List.rdropWhile_concat, List.rdropWhile_concat, ih]
    split <;> simp

end QueryLoom.Text

namespace QueryLoom.Markup

open Text

/-! ### Overrides -/

namespace Overrides

/-- No piece has a quote in it. -/
def Quoteless (o : Overrides) : Prop := ∀ piece ∈ o, '\'' ∉ piece

lemma head?_append_quote (cs t : List Char) :
    (cs ++ '\'' :: t).head? = (cs ++ ['\'']).head? := by
  cases cs <;> rfl

lemma strip?_eq (before : Option Char) {piece : List Char} {first last : Char}
    (hfirst : piece.head? = some first) (hlast : piece.getLast? = some last) (cs : List Char) :
    strip? before piece cs =
      if isAlphanumeric first && !isBoundary before cs.head? then none
      else (stripLeadIgnoringCase? piece cs).bind fun rest =>
        if isAlphanumeric last && !isBoundary (cs.take piece.length).getLast? rest.head? then none
        else some rest := by
  simp only [strip?, hfirst, hlast]
  rfl

/-- Whether a piece stands in front of a quote does not depend on what follows the quote. -/
lemma strip?_append (before : Option Char) {piece : List Char} (hpiece : '\'' ∉ piece)
    (cs : List Char) :
    ∃ rest? : Option (List Char), ∀ t,
      strip? before piece (cs ++ '\'' :: t) = rest?.map (· ++ '\'' :: t) := by
  cases hfirst : piece.head? with
  | none => exact ⟨none, fun t => by simp [strip?, hfirst]⟩
  | some first =>
    cases hlast : piece.getLast? with
    | none => exact ⟨none, fun t => by simp [strip?, hlast]⟩
    | some last =>
      simp only [strip?_eq before hfirst hlast, stripLead_append hpiece, head?_append_quote cs]
      by_cases hbegin : (isAlphanumeric first && !isBoundary before (cs ++ ['\'']).head?) = true
      · exact ⟨none, fun t => if_pos hbegin⟩
      simp only [if_neg hbegin]
      cases hlead : stripLeadIgnoringCase? piece cs with
      | none => exact ⟨none, fun t => rfl⟩
      | some rest =>
        obtain ⟨found, rfl, hlength, -⟩ := exists_of_stripLead hpiece hlead
        have htake : ∀ t, (found ++ rest ++ '\'' :: t).take piece.length = found := by
          intro t
          rw [List.append_assoc, ← hlength, List.take_left]
        simp only [Option.map_some, Option.bind_some, htake, head?_append_quote rest]
        by_cases hend : (isAlphanumeric last &&
            !isBoundary found.getLast? (rest ++ ['\'']).head?) = true
        · exact ⟨none, fun t => if_pos hend⟩
        · exact ⟨some rest, fun t => if_neg hend⟩

lemma stripLead_of_strip? {before : Option Char} {piece cs rest : List Char}
    (h : strip? before piece cs = some rest) : stripLeadIgnoringCase? piece cs = some rest := by
  cases hfirst : piece.head? with
  | none => simp [strip?, hfirst] at h
  | some first =>
    cases hlast : piece.getLast? with
    | none => simp [strip?, hlast] at h
    | some last =>
      rw [strip?_eq before hfirst hlast] at h
      split at h
      · cases h
      · obtain ⟨more, hmore, hsome⟩ := Option.bind_eq_some_iff.mp h
        split at hsome
        · cases hsome
        · rwa [← Option.some.inj hsome]

lemma dropLeading_append {o : Overrides} (ho : o.Quoteless) (cs : List Char) :
    ∃ cs', ∀ t, o.dropLeading (cs ++ '\'' :: t) = cs' ++ '\'' :: t := by
  have hfind : ∃ rest? : Option (List Char), ∀ t,
      (o.findSome? fun piece => strip? none piece (cs ++ '\'' :: t))
        = rest?.map (· ++ '\'' :: t) := by
    induction o with
    | nil => exact ⟨none, fun t => rfl⟩
    | cons piece o ih =>
      obtain ⟨first?, hfirst⟩ := strip?_append none (ho piece List.mem_cons_self) cs
      obtain ⟨more?, hmore⟩ := ih fun piece h => ho piece (List.mem_cons_of_mem _ h)
      cases first? with
      | none => exact ⟨more?, fun t => by simp [hfirst t, hmore t]⟩
      | some rest => exact ⟨some rest, fun t => by simp [hfirst t]⟩
  obtain ⟨rest?, hfind⟩ := hfind
  cases rest? with
  | none => exact ⟨cs, fun t => by simp [dropLeading, hfind t]⟩
  | some rest => exact ⟨rest, fun t => by simp [dropLeading, hfind t]⟩

/-- No override stands in front of a quote. -/
lemma dropLeading_quote {o : Overrides} (ho : o.Quoteless) (t : List Char) :
    o.dropLeading ('\'' :: t) = '\'' :: t := by
  have hnone : ∀ piece ∈ o, strip? none piece ('\'' :: t) = none := by
    intro piece hpiece
    cases piece with
    | nil => rfl
    | cons first more =>
      have hfirst : first ≠ '\'' := fun h => ho _ hpiece (h ▸ List.mem_cons_self)
      have hlead : stripLeadIgnoringCase? (first :: more) ('\'' :: t) = none := by
        rw [stripLeadIgnoringCase?, sameIgnoringCase_quote hfirst]
        rfl
      by_contra hsome
      obtain ⟨rest, hrest⟩ := Option.ne_none_iff_exists'.mp hsome
      rw [stripLead_of_strip? hrest] at hlead
      cases hlead
  rw [dropLeading, List.findSome?_eq_none_iff.mpr hnone]
  rfl

/-- Nothing but blanks follows an override at the end, so no quote does. -/
lemma endsHere_of_mem {o : Overrides} (ho : o.Quoteless) (before : Option Char) {cs : List Char}
    (h : '\'' ∈ cs) : o.endsHere before cs = false := by
  rw [endsHere, List.any_eq_false]
  intro piece hpiece hends
  obtain ⟨rest, hstrip, hblank⟩ := (Option.any_eq_true _ _).mp hends
  obtain ⟨found, rfl, -, hfound⟩ :=
    exists_of_stripLead (ho piece hpiece) (stripLead_of_strip? hstrip)
  have hrest : '\'' ∈ rest := (List.mem_append.mp h).resolve_left hfound
  exact absurd (List.all_eq_true.mp hblank _ hrest) (by decide)

lemma dropTrailing_append {o : Overrides} (ho : o.Quoteless) (before : Option Char)
    (cs t : List Char) :
    o.dropTrailing before (cs ++ '\'' :: t) = cs ++ '\'' :: o.dropTrailing (some '\'') t := by
  induction cs generalizing before with
  | nil =>
    have hquote : o.endsHere before ('\'' :: t) = false := endsHere_of_mem ho before (by simp)
    simp [dropTrailing, hquote]
  | cons c cs ih =>
    have hc : o.endsHere before (c :: (cs ++ '\'' :: t)) = false :=
      endsHere_of_mem ho before (by simp)
    simp [dropTrailing, hc, ih]

end Overrides

/-! ### Commas -/

lemma dropLeadingComma_append (cs : List Char) :
    ∃ cs', ∀ t, dropLeadingComma (cs ++ '\'' :: t) = cs' ++ '\'' :: t := by
  unfold dropLeadingComma
  cases h : trimStart cs with
  | nil => exact ⟨cs, fun t => by simp [trimStart_append, h]⟩
  | cons c rest =>
    by_cases hc : c = ','
    · exact ⟨rest, fun t => by simp [trimStart_append, h, hc]⟩
    · refine ⟨cs, fun t => ?_⟩
      rw [trimStart_append, h]
      split
      · next hcons => exact absurd (List.cons.inj hcons).1 hc
      · rfl

lemma dropTrailingComma_append (cs t : List Char) :
    dropTrailingComma (cs ++ '\'' :: t) = cs ++ '\'' :: dropTrailingComma t := by
  induction cs with
  | nil => simp [dropTrailingComma]
  | cons c cs ih =>
    have hquote : (cs ++ '\'' :: t).all isBlank = false := by
      rw [List.all_eq_false]
      exact ⟨'\'', by simp, by decide⟩
    simp only [List.cons_append, dropTrailingComma, hquote, Bool.and_false, ih]
    rfl

lemma collapseCommas_append (run : Option (List Char)) (cs t : List Char) :
    collapseCommas run (cs ++ '\'' :: t)
      = collapseCommas run cs ++ '\'' :: collapseCommas none t := by
  induction cs generalizing run with
  | nil =>
    cases run with
    | none => simp [collapseCommas, collapseCommas.finish]
    | some more =>
      have hquote : isCommaOrBlank '\'' = false := by decide
      simp [collapseCommas, hquote]
  | cons c cs ih =>
    cases run with
    | none =>
      simp only [List.cons_append, collapseCommas]
      split
      · exact ih (some [])
      · rw [ih none, List.cons_append]
    | some more =>
      simp only [List.cons_append, collapseCommas]
      split
      · exact ih _
      · rw [ih none, List.append_assoc, List.cons_append]

/-! ### Commas in front of `where` -/

lemma afterCommaWhere?_cons (cs : List Char) :
    afterCommaWhere? (',' :: cs) =
      (stripLeadIgnoringCase? "where".toList (trimStart cs)).bind fun rest =>
        if isBoundary (some 'e') rest.head? then some rest else none := rfl

lemma afterCommaWhere?_of_ne {c : Char} (hc : c ≠ ',') (cs : List Char) :
    afterCommaWhere? (c :: cs) = none := by
  unfold afterCommaWhere?
  split
  · next hcons => exact absurd (List.cons.inj hcons).1 hc
  · rfl

lemma afterCommaWhere?_append (cs t : List Char) :
    afterCommaWhere? (cs ++ '\'' :: t) = (afterCommaWhere? cs).map (· ++ '\'' :: t) := by
  cases cs with
  | nil => exact afterCommaWhere?_of_ne (by decide) t
  | cons c cs =>
    by_cases hc : c = ','
    · subst hc
      have hwhere : '\'' ∉ "where".toList := by decide
      rw [List.cons_append, afterCommaWhere?_cons, afterCommaWhere?_cons, trimStart_append,
        stripLead_append hwhere]
      cases stripLeadIgnoringCase? "where".toList (trimStart cs) with
      | none => rfl
      | some rest =>
        have hhead : isBoundary (some 'e') (rest ++ '\'' :: t).head?
            = isBoundary (some 'e') rest.head? := by
          cases rest with
          | nil =>
            show isBoundary (some 'e') (some '\'') = isBoundary (some 'e') none
            decide
          | cons r rest => rfl
        simp only [Option.map_some, Option.bind_some, hhead]
        split <;> rfl
    · rw [List.cons_append, afterCommaWhere?_of_ne hc, afterCommaWhere?_of_ne hc]
      rfl

lemma length_afterCommaWhere? {cs rest : List Char} (h : afterCommaWhere? cs = some rest) :
    rest.length < cs.length := by
  cases cs with
  | nil => cases h
  | cons c cs =>
    by_cases hc : c = ','
    · subst hc
      rw [afterCommaWhere?_cons] at h
      obtain ⟨more, hlead, hmore⟩ := Option.bind_eq_some_iff.mp h
      have hwhere : '\'' ∉ "where".toList := by decide
      obtain ⟨found, hcs, -, -⟩ := exists_of_stripLead hwhere hlead
      have hle : (trimStart cs).length ≤ cs.length := (List.dropWhile_suffix isBlank).length_le
      have hrest : rest = more := by
        split at hmore
        · exact (Option.some.inj hmore).symm
        · cases hmore
      rw [hcs, List.length_append] at hle
      rw [hrest, List.length_cons]
      omega
    · rw [afterCommaWhere?_of_ne hc] at h
      cases h

/-- The text with no comma in front of the word `where`. -/
def mendWhere (cs : List Char) : List Char := dropCommaBeforeWhere cs.length cs

/-- A larger budget changes nothing. -/
lemma dropCommaBeforeWhere_eq {budget : Nat} {cs : List Char} (h : cs.length ≤ budget) :
    dropCommaBeforeWhere budget cs = mendWhere cs := by
  have hlarge : ∀ (n m : Nat) (cs : List Char), cs.length ≤ n → cs.length ≤ m →
      dropCommaBeforeWhere n cs = dropCommaBeforeWhere m cs := by
    intro n
    induction n with
    | zero =>
      intro m cs hn _
      rw [List.length_eq_zero_iff.mp (Nat.le_zero.mp hn)]
      cases m <;> rfl
    | succ n ih =>
      intro m cs hn hm
      cases cs with
      | nil => cases m <;> rfl
      | cons c cs =>
        cases m with
        | zero => simp at hm
        | succ m =>
          rw [List.length_cons] at hn hm
          simp only [dropCommaBeforeWhere]
          split
          · next rest hrest =>
            have hlength := length_afterCommaWhere? hrest
            rw [List.length_cons] at hlength
            rw [ih m rest (by omega) (by omega)]
          · rw [ih m cs (by omega) (by omega)]
  exact hlarge budget cs.length cs h (Nat.le_refl _)

lemma mendWhere_of_some {c : Char} {cs rest : List Char}
    (h : afterCommaWhere? (c :: cs) = some rest) :
    mendWhere (c :: cs) = " WHERE ".toList ++ mendWhere rest := by
  have hlength := length_afterCommaWhere? h
  rw [mendWhere, List.length_cons, dropCommaBeforeWhere, h]
  rw [List.length_cons] at hlength
  simp only [dropCommaBeforeWhere_eq (Nat.lt_succ_iff.mp hlength)]

lemma mendWhere_of_none {c : Char} {cs : List Char} (h : afterCommaWhere? (c :: cs) = none) :
    mendWhere (c :: cs) = c :: mendWhere cs := by
  rw [mendWhere, List.length_cons, dropCommaBeforeWhere, h]
  rfl

lemma mendWhere_append (cs t : List Char) :
    mendWhere (cs ++ '\'' :: t) = mendWhere cs ++ '\'' :: mendWhere t := by
  induction hn : cs.length using Nat.strong_induction_on generalizing cs with
  | _ n ih =>
    cases cs with
    | nil => exact mendWhere_of_none (afterCommaWhere?_of_ne (by decide) t)
    | cons c cs =>
      have happend := afterCommaWhere?_append (c :: cs) t
      cases h : afterCommaWhere? (c :: cs) with
      | none =>
        rw [h, List.cons_append] at happend
        rw [List.cons_append, mendWhere_of_none happend, mendWhere_of_none h,
          ih cs.length (by simp [← hn]) cs rfl, List.cons_append]
      | some rest =>
        rw [h, List.cons_append] at happend
        have hlength := length_afterCommaWhere? h
        rw [List.cons_append, mendWhere_of_some happend, mendWhere_of_some h,
          ih rest.length (hn ▸ hlength) rest rfl, List.append_assoc]

end QueryLoom.Markup

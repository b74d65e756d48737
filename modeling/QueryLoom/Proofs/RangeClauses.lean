import Mathlib.Data.Prod.Basic
import QueryLoom.Proofs.LiteralValues
import QueryLoom.Proofs.MarkerPass
import QueryLoom.Proofs.Tokens.Literals
import QueryLoom.Proofs.TrimmedText
import QueryLoom.Template.Clause

/-!
# Bounds of ranges

A range is written with its bounds as string literals, and then the first bar of the clause gives
way to `BETWEEN`. The literals are those of the bounds, and are read back as the bounds, exactly if
no bound has a bar: the first one in them is rewritten inside its literal.
-/

namespace QueryLoom.Clause

open Markup.Segment (cutAt?_single)

/-! ### The first bar -/

lemma replaceBar_of_notMem {cs : List Char} (h : '|' ∉ cs) : replaceBar cs = cs := by
  have hcut : Text.cutAt? ['|'] cs = none := by
    cases hcut : Text.cutAt? ['|'] cs with
    | none => rfl
    | some found =>
      rw [Markup.Segment.eq_of_cutAt?_single hcut] at h
      simp at h
  rw [replaceBar, hcut]

lemma replaceBar_bar {before : List Char} (h : '|' ∉ before) (after : List Char) :
    replaceBar (before ++ '|' :: after) = before ++ " BETWEEN ".toList ++ after := by
  rw [replaceBar, cutAt?_single h]

lemma replaceBar_append_of_notMem {front : List Char} (h : '|' ∉ front) (cs : List Char) :
    replaceBar (front ++ cs) = front ++ replaceBar cs := by
  by_cases hcs : '|' ∈ cs
  · obtain ⟨before, after, rfl, hbefore⟩ := List.eq_append_cons_of_mem hcs
    have hfront : '|' ∉ front ++ before := by simp [h, hbefore]
    rw [← List.append_assoc, replaceBar_bar hfront, replaceBar_bar hbefore]
    simp
  · rw [replaceBar_of_notMem hcs, replaceBar_of_notMem (by simp [h, hcs])]

lemma replaceBar_append_of_mem {cs : List Char} (h : '|' ∈ cs) (rest : List Char) :
    replaceBar (cs ++ rest) = replaceBar cs ++ rest := by
  obtain ⟨before, after, rfl, hbefore⟩ := List.eq_append_cons_of_mem h
  rw [List.append_assoc, List.cons_append, replaceBar_bar hbefore, replaceBar_bar hbefore]
  simp

lemma replaceBar_eq_self_iff {cs : List Char} : replaceBar cs = cs ↔ '|' ∉ cs := by
  refine ⟨fun h hcs => ?_, replaceBar_of_notMem⟩
  obtain ⟨before, after, rfl, hbefore⟩ := List.eq_append_cons_of_mem hcs
  have hlength := congrArg List.length ((replaceBar_bar hbefore after).symm.trans h)
  have hword : " BETWEEN ".toList.length = 9 := rfl
  simp only [List.length_append, List.length_cons, hword] at hlength
  omega

/-! ### Literals -/

variable (d : Dialect)

/-- A text as a string literal. -/
def literal (cs : List Char) : List Char := (d.quoteLiteral (String.ofList cs)).toList

lemma literal_eq (cs : List Char) :
    literal d cs = '\'' :: (cs.flatMap d.literalChar ++ ['\'']) := by
  simp [literal, Dialect.quoteLiteral]

lemma literalChar_bar : d.literalChar '|' = ['|'] := by cases d <;> rfl

lemma bar_mem_literalChar {c : Char} : '|' ∈ d.literalChar c ↔ c = '|' := by
  unfold Dialect.literalChar
  split
  · next hquote => simp [hquote]
  · split
    · split <;> simp [eq_comm]
    · simp [eq_comm]

lemma bar_mem_literal {cs : List Char} : '|' ∈ literal d cs ↔ '|' ∈ cs := by
  simp [literal_eq, bar_mem_literalChar]

lemma flatMap_literalChar_between :
    " BETWEEN ".toList.flatMap d.literalChar = " BETWEEN ".toList := by
  cases d <;> rfl

/-- Rewriting a literal writes another value. -/
lemma replaceBar_literal (cs : List Char) :
    replaceBar (literal d cs) = literal d (replaceBar cs) := by
  by_cases hcs : '|' ∈ cs
  · obtain ⟨before, after, rfl, hbefore⟩ := List.eq_append_cons_of_mem hcs
    have hwritten : '|' ∉ '\'' :: before.flatMap d.literalChar := by
      simpa [bar_mem_literalChar] using hbefore
    have hliteral : literal d (before ++ '|' :: after) =
        ('\'' :: before.flatMap d.literalChar) ++
          '|' :: (after.flatMap d.literalChar ++ ['\'']) := by
      simp [literal_eq, literalChar_bar]
    rw [hliteral, replaceBar_bar hwritten, replaceBar_bar hbefore, literal_eq,
      List.flatMap_append, List.flatMap_append, flatMap_literalChar_between]
    simp only [List.cons_append, List.append_assoc]
  · rw [replaceBar_of_notMem hcs, replaceBar_of_notMem ((bar_mem_literal d).not.mpr hcs)]

/-! ### Bounds -/

/-- A text that can stand for a bound: without commas and parentheses. -/
def IsBound (cs : List Char) : Prop := ',' ∉ cs ∧ '(' ∉ cs ∧ ')' ∉ cs

/-- Two bounds as they stand in a range condition. -/
def bounds (low high : List Char) : List Char := literal d low ++ " AND ".toList ++ literal d high

/-- The values of two literals with `AND` between them, and what follows them. -/
def readBounds? (cs : List Char) : Option (List Char × List Char × List Char) := do
  let (low, rest) ← d.readLiteral? cs
  let rest ← Text.stripLead? " AND ".toList rest
  let (high, rest) ← d.readLiteral? rest
  return (low, high, rest)

/-- The bounds after the first bar in them was rewritten. -/
def barred (low high : List Char) : List Char × List Char :=
  if '|' ∈ low then (replaceBar low, high) else (low, replaceBar high)

lemma replaceBar_bounds (low high : List Char) :
    replaceBar (bounds d low high) = bounds d (barred low high).1 (barred low high).2 := by
  rw [bounds, barred]
  split
  · next hlow =>
    rw [List.append_assoc, replaceBar_append_of_mem ((bar_mem_literal d).mpr hlow),
      replaceBar_literal, ← List.append_assoc]
    rfl
  · next hlow =>
    have hfront : '|' ∉ literal d low ++ " AND ".toList := by simp [bar_mem_literal, hlow]
    rw [replaceBar_append_of_notMem hfront, replaceBar_literal]
    rfl

lemma barred_eq_self_iff {low high : List Char} :
    barred low high = (low, high) ↔ '|' ∉ low ∧ '|' ∉ high := by
  rw [barred]
  split
  · next hlow => simp [replaceBar_eq_self_iff, hlow]
  · next hlow => simp [replaceBar_eq_self_iff, hlow]

lemma readLiteral?_literal (cs rest : List Char) :
    d.readLiteral? (literal d cs ++ rest) =
      (Dialect.readInside? d.escapesInLiterals ('\'' :: rest)).map (Dialect.withFront cs) := by
  rw [literal, Dialect.readLiteral?_append, String.toList_ofList]

lemma readLiteral?_literal_closed (cs : List Char) {rest : List Char} (h : rest.head? ≠ some '\'') :
    d.readLiteral? (literal d cs ++ rest) = some (cs, rest) := by
  rw [readLiteral?_literal, Dialect.readInside?_quote h]
  simp [Dialect.withFront]

/-- What follows a literal is left over, unless it begins with a quote. -/
lemma readLiteral?_literal_rest_iff {cs found rest : List Char} :
    d.readLiteral? (literal d cs ++ rest) = some (found, rest) ↔
      found = cs ∧ rest.head? ≠ some '\'' := by
  by_cases hrest : rest.head? = some '\''
  · obtain ⟨more, rfl⟩ := List.head?_eq_some_iff.mp hrest
    have hread : Dialect.readInside? d.escapesInLiterals ('\'' :: '\'' :: more) =
        (Dialect.readInside? d.escapesInLiterals more).map (Dialect.withFront ['\'']) := by
      rw [Dialect.readInside?]
    simp only [List.head?_cons, ne_eq, not_true_eq_false, and_false, iff_false]
    intro h
    rw [readLiteral?_literal, hread, Dialect.map_withFront_map] at h
    obtain ⟨value, hvalue, -⟩ := Dialect.map_withFront_eq_some.mp h
    -- the quote that follows is taken for a part of the literal, so less is left over
    have hlength := ((Dialect.suffix_of_readInside? hvalue).trans (List.tail_suffix more)).length_le
    exact absurd hlength (Nat.not_succ_le_self _)
  · simp [readLiteral?_literal_closed d cs hrest, hrest, eq_comm]

lemma readBounds?_bounds (low high rest : List Char) :
    readBounds? d (bounds d low high ++ rest) =
      (d.readLiteral? (literal d high ++ rest)).map fun (high, rest) => (low, high, rest) := by
  have hlow : d.readLiteral? (bounds d low high ++ rest) =
      some (low, " AND ".toList ++ (literal d high ++ rest)) := by
    rw [bounds, List.append_assoc, List.append_assoc]
    exact readLiteral?_literal_closed d low (by simp)
  rw [readBounds?, hlow]
  simp only [bind, Option.bind, SqlToken.stripLead?_append]
  cases d.readLiteral? (literal d high ++ rest) <;> rfl

/-! ### Ranges -/

/-- A range as it is written in a template. -/
def rangeText (front low high rest : List Char) : List Char :=
  front ++ '(' :: (low ++ ',' :: (high ++ ')' :: rest))

section

variable {front low high rest : List Char}

lemma cutParens?_rangeText (hfront : '(' ∉ front) (hrest : ')' ∉ rest) :
    cutParens? (rangeText front low high rest) = some (front, low ++ ',' :: high, rest) := by
  have hback : Text.cutAt? [')'] (low ++ ',' :: (high ++ ')' :: rest)).reverse =
      some (rest.reverse, (low ++ ',' :: high).reverse) := by
    have hreverse : (low ++ ',' :: (high ++ ')' :: rest)).reverse =
        rest.reverse ++ ')' :: (low ++ ',' :: high).reverse := by simp
    rw [hreverse]
    exact cutAt?_single (by simpa using hrest) _
  rw [cutParens?, rangeText, cutAt?_single hfront]
  simp only [bind, Option.bind, hback]
  simp

lemma bar_mem_trim {cs : List Char} : '|' ∈ Text.trim cs ↔ '|' ∈ cs := by
  obtain ⟨front, back, hcs, hfront, hback⟩ := Text.exists_trim_between cs
  have hbar : Text.isBlank '|' ≠ true := by simp [show Text.isBlank '|' = false from rfl]
  have hblanks {blanks : List Char} (h : ∀ c ∈ blanks, Text.isBlank c = true) : '|' ∉ blanks :=
    fun hmem => hbar (h '|' hmem)
  have hmem : '|' ∈ cs ↔ '|' ∈ front ++ Text.trim cs ++ back := hcs ▸ Iff.rfl
  rw [hmem]
  simp [hblanks hfront, hblanks hback]

lemma trim_comma_head (h : (Text.trim low).head? ≠ some '[') (high : List Char) :
    (Text.trim (low ++ ',' :: high)).head? ≠ some '[' := by
  intro hhead
  obtain ⟨more, hmore⟩ := List.head?_eq_some_iff.mp hhead
  have hprefix : ['['] <+: Text.trim (low ++ ',' :: high) := ⟨more, hmore.symm⟩
  have hbracket : ∀ c ∈ ['['], Text.isBlank c = false := by
    intro c hc
    rw [List.mem_singleton.mp hc]
    rfl
  obtain ⟨blanks, after, hblanks, hcs⟩ :=
    (Text.prefix_trim_iff (List.cons_ne_nil _ _) hbracket).mp hprefix
  -- the bracket stands in the first bound, since only blanks stand in front of it
  have hlow : ['['] <+: Text.trim low := by
    refine (Text.prefix_trim_iff (List.cons_ne_nil _ _) hbracket).mpr ?_
    rcases List.append_eq_append_iff.mp hcs with
      ⟨middle, hfront, hmiddle⟩ | ⟨middle, hfront, hmiddle⟩
    · cases middle with
      | nil => simp at hmiddle
      | cons c middle =>
        obtain rfl : ',' = c := (List.cons.inj hmiddle).1
        have hcomma : Text.isBlank ',' = true := hblanks ',' (by simp [hfront])
        exact absurd hcomma (by decide)
    · cases middle with
      | nil => simp at hmiddle
      | cons c middle =>
        obtain rfl : '[' = c := (List.cons.inj hmiddle).1
        exact ⟨blanks, middle, hblanks, hfront⟩
  obtain ⟨more, hmore⟩ := hlow
  exact h (by rw [← hmore]; rfl)

lemma unbracketed_of_head {cs : List Char} (h : cs.head? ≠ some '[') : unbracketed cs = cs := by
  unfold unbracketed
  split
  · exact absurd rfl h
  · rfl

lemma firstTwo_eq (hlow : ',' ∉ low) (hhigh : ',' ∉ high) :
    firstTwo (Text.trim (low ++ ',' :: high)) = (Text.trim low, Text.trim high) := by
  have hpieces := Text.map_trim_splitOn_trim (x := ',') (by decide) (low ++ ',' :: high)
  rw [Text.splitOn_append_cons, Text.splitOn_of_notMem hlow,
    Text.splitOn_of_notMem hhigh] at hpieces
  obtain ⟨a, rest, hsplit, ha, hrest⟩ := List.map_eq_cons_iff.mp hpieces
  obtain ⟨b, more, rfl, hb, -⟩ := List.map_eq_cons_iff.mp hrest
  rw [firstTwo, hsplit]
  dsimp only
  rw [ha, hb]

/-- The range condition of two bounds; the first bar in them is rewritten as well. -/
lemma between_rangeText (hfront : '(' ∉ front ∧ '|' ∉ front) (hlow : IsBound low)
    (hbracket : (Text.trim low).head? ≠ some '[') (hhigh : IsBound high)
    (hrest : ')' ∉ rest ∧ '|' ∉ rest) :
    between d (rangeText front low high rest) = front ++ " BETWEEN ".toList ++
      (replaceBar (bounds d (Text.trim low) (Text.trim high)) ++ rest) := by
  have hwritten : '|' ∉ front ++ " BETWEEN ".toList := by simp [hfront.2]
  have hclause : replaceBar (bounds d (Text.trim low) (Text.trim high) ++ rest) =
      replaceBar (bounds d (Text.trim low) (Text.trim high)) ++ rest := by
    by_cases hbar : '|' ∈ bounds d (Text.trim low) (Text.trim high)
    · exact replaceBar_append_of_mem hbar rest
    · rw [replaceBar_append_of_notMem hbar, replaceBar_of_notMem hrest.2,
        replaceBar_of_notMem hbar]
  rw [between, cutParens?_rangeText hfront.1 hrest.1]
  dsimp only
  rw [unbracketed_of_head (trim_comma_head hbracket high), firstTwo_eq hlow.1 hhigh.1, ← hclause,
    ← replaceBar_append_of_notMem hwritten]
  simp only [bounds, literal, List.append_assoc]

end

lemma bounds_inj {low high low' high' : List Char} :
    bounds d low high = bounds d low' high' ↔ low = low' ∧ high = high' := by
  constructor
  · intro h
    have hread (low high : List Char) :
        readBounds? d (bounds d low high ++ []) = some (low, high, []) := by
      rw [readBounds?_bounds, readLiteral?_literal_closed d high (by simp)]
      rfl
    have hvalues := hread low high
    rw [h, hread low' high'] at hvalues
    simp only [Option.some.injEq, Prod.mk.injEq, and_true] at hvalues
    exact ⟨hvalues.1.symm, hvalues.2.symm⟩
  · rintro ⟨rfl, rfl⟩
    rfl

lemma readBounds?_bounds_iff {low high low' high' rest : List Char} :
    readBounds? d (bounds d low high ++ rest) = some (low', high', rest) ↔
      (low, high) = (low', high') ∧ rest.head? ≠ some '\'' := by
  rw [readBounds?_bounds]
  constructor
  · intro h
    obtain ⟨⟨value, left⟩, hvalue, heq⟩ := Option.map_eq_some_iff.mp h
    obtain ⟨rfl, rfl, rfl⟩ : low = low' ∧ value = high' ∧ left = rest := by simpa using heq
    obtain ⟨rfl, hrest⟩ := (readLiteral?_literal_rest_iff d).mp hvalue
    exact ⟨rfl, hrest⟩
  · rintro ⟨heq, hrest⟩
    obtain ⟨rfl, rfl⟩ := Prod.mk.inj heq
    rw [readLiteral?_literal_closed d high hrest]
    rfl

/-- A range condition is written with the literals of its bounds after the first bar in these
became `BETWEEN`. So it has the literals of the bounds exactly if no bound has a bar, and the
bounds are read back, with what follows left over, exactly if moreover no quote follows. -/
theorem between_reads_bounds_iff {front low high rest : List Char}
    (hfront : '(' ∉ front ∧ '|' ∉ front) (hlow : IsBound low)
    (hbracket : (Text.trim low).head? ≠ some '[') (hhigh : IsBound high)
    (hrest : ')' ∉ rest ∧ '|' ∉ rest) :
    ∃ clause, between d (rangeText front low high rest) = front ++ " BETWEEN ".toList ++ clause ∧
      clause = bounds d (barred (Text.trim low) (Text.trim high)).1
        (barred (Text.trim low) (Text.trim high)).2 ++ rest ∧
      (clause = bounds d (Text.trim low) (Text.trim high) ++ rest ↔ '|' ∉ low ∧ '|' ∉ high) ∧
      (readBounds? d clause = some (Text.trim low, Text.trim high, rest) ↔
        ('|' ∉ low ∧ '|' ∉ high) ∧ rest.head? ≠ some '\'') := by
  have hclean : barred (Text.trim low) (Text.trim high) = (Text.trim low, Text.trim high) ↔
      '|' ∉ low ∧ '|' ∉ high := by
    rw [barred_eq_self_iff, bar_mem_trim, bar_mem_trim]
  refine ⟨_, between_rangeText d hfront hlow hbracket hhigh hrest, ?_⟩
  rw [replaceBar_bounds]
  refine ⟨rfl, ?_, ?_⟩
  · rw [List.append_cancel_right_eq, bounds_inj, ← Prod.mk.injEq, Prod.mk.eta, hclean]
  · rw [readBounds?_bounds_iff, Prod.mk.eta, hclean]

/-- Bounds with a quote, a backslash and a bar: the bar becomes `BETWEEN` inside its literal, so the
bounds are not read back. -/
theorem between_reads_bounds_iff_notes :
    ('(' ∉ "n.body ".toList ∧ '|' ∉ "n.body ".toList) ∧ IsBound "it's ".toList ∧
      (Text.trim "it's ".toList).head? ≠ some '[' ∧ IsBound " z\\|[".toList ∧
      (')' ∉ " or 1".toList ∧ '|' ∉ " or 1".toList) ∧
      between .mysql (rangeText "n.body ".toList "it's ".toList " z\\|[".toList " or 1".toList) =
        "n.body  BETWEEN 'it''s' AND 'z\\\\ BETWEEN [' or 1".toList ∧
      ∃ clause, between .mysql
          (rangeText "n.body ".toList "it's ".toList " z\\|[".toList " or 1".toList) =
          "n.body ".toList ++ " BETWEEN ".toList ++ clause ∧
        readBounds? .mysql clause ≠ some ("it's".toList, "z\\|[".toList, " or 1".toList) := by
  have hfront : '(' ∉ "n.body ".toList ∧ '|' ∉ "n.body ".toList := by decide
  have hlow : IsBound "it's ".toList := by unfold IsBound; decide
  have hbracket : (Text.trim "it's ".toList).head? ≠ some '[' := by decide
  have hhigh : IsBound " z\\|[".toList := by unfold IsBound; decide
  have hrest : ')' ∉ " or 1".toList ∧ '|' ∉ " or 1".toList := by decide
  obtain ⟨clause, hclause, htext, -, hread⟩ :=
    between_reads_bounds_iff .mysql hfront hlow hbracket hhigh hrest
  refine ⟨hfront, hlow, hbracket, hhigh, hrest, ?_, clause, hclause, fun h => ?_⟩
  · rw [hclause, htext]
    decide
  · exact absurd (hread.mp h).1.2 (by decide)

/-- A bar in the lower bound takes the place of the one between the bounds. -/
theorem between_breaks_barred_bound :
    ('(' ∉ "c ".toList ∧ '|' ∉ "c ".toList) ∧ IsBound "x|y".toList ∧
      (Text.trim "x|y".toList).head? ≠ some '[' ∧ IsBound "z".toList ∧
      between .mysql (rangeText "c ".toList "x|y".toList "z".toList []) ≠
        "c ".toList ++ " BETWEEN ".toList ++
          bounds .mysql (Text.trim "x|y".toList) (Text.trim "z".toList) ∧
      String.ofList (between .mysql (rangeText "c ".toList "x|y".toList "z".toList [])) =
        "c  BETWEEN 'x BETWEEN y' AND 'z'" := by
  refine ⟨by decide, ?_, by decide, ?_, by decide, rfl⟩
  · simp [IsBound]
  · simp [IsBound]

end QueryLoom.Clause

import Mathlib.Data.List.Infix
import QueryLoom.Dialect

/-!
# Values of string literals

What an engine makes of a string literal: a doubled quote is a quote, and where backslashes escape,
a backslash and the character after it stand for another character. A text that is written as a
literal is its value, whatever follows the literal.
-/

namespace QueryLoom.Dialect

/-! ### Reading -/

/-- Whether a backslash inside a string literal escapes the next character. -/
def escapesInLiterals : Dialect → Bool
  | .mysql => true
  | .postgres | .sqlite => false

/-- What a backslash and the character after it stand for. Before the wildcards of patterns the
backslash stays; before other characters without a meaning it goes. -/
def escapeValue : Char → List Char
  | '0' => ['\x00']
  | 'b' => ['\x08']
  | 't' => ['\t']
  | 'n' => ['\n']
  | 'r' => ['\r']
  | 'Z' => ['\x1a']
  | '%' => ['\\', '%']
  | '_' => ['\\', '_']
  | c => [c]

/-- Put characters in front of the value that was read. -/
def withFront (front : List Char) (read : List Char × List Char) : List Char × List Char :=
  (front ++ read.1, read.2)

/-- Read a string literal from behind its opening quote up to a quote that stands alone: its value,
and what follows it. -/
def readInside? (escapes : Bool) : List Char → Option (List Char × List Char)
  | [] => none
  | '\'' :: '\'' :: cs => (readInside? escapes cs).map (withFront ['\''])
  | '\'' :: cs => some ([], cs)
  | '\\' :: c :: cs =>
    if escapes then (readInside? escapes cs).map (withFront (escapeValue c))
    else (readInside? escapes (c :: cs)).map (withFront ['\\'])
  | c :: cs => (readInside? escapes cs).map (withFront [c])

/-- Read the string literal at the start of a text: its value, and what follows it. -/
def readLiteral? (d : Dialect) : List Char → Option (List Char × List Char)
  | '\'' :: cs => readInside? d.escapesInLiterals cs
  | _ => none

/-! ### Characters -/

lemma map_withFront_nil (read? : Option (List Char × List Char)) :
    read?.map (withFront []) = read? := by
  cases read? <;> rfl

lemma map_withFront_map (front front' : List Char) (read? : Option (List Char × List Char)) :
    (read?.map (withFront front')).map (withFront front)
      = read?.map (withFront (front ++ front')) := by
  cases read? <;> simp [withFront]

lemma map_withFront_eq_some {front value rest : List Char}
    {read? : Option (List Char × List Char)} :
    read?.map (withFront front) = some (value, rest) ↔
      ∃ more, read? = some (more, rest) ∧ value = front ++ more := by
  cases read? with
  | none => simp
  | some read => simp [withFront, Prod.ext_iff, eq_comm, and_comm]

lemma readInside?_other {escapes : Bool} {c : Char} (hquote : c ≠ '\'')
    (hescape : ¬ (escapes = true ∧ c = '\\')) (cs : List Char) :
    readInside? escapes (c :: cs) = (readInside? escapes cs).map (withFront [c]) := by
  by_cases hc : c = '\\'
  · obtain rfl : escapes = false := by simpa [hc] using hescape
    subst hc
    cases cs <;> simp [readInside?]
  · rw [readInside?.eq_def]
    split <;> simp_all

/-- A character is read back from what stands for it. -/
lemma readInside?_literalChar (d : Dialect) (c : Char) (cs : List Char) :
    readInside? d.escapesInLiterals (d.literalChar c ++ cs)
      = (readInside? d.escapesInLiterals cs).map (withFront [c]) := by
  unfold literalChar
  split
  · next hquote => rw [hquote]; rfl
  · next hquote =>
    split
    · next hd =>
      subst hd
      split
      all_goals try rfl
      next hbackslash _ _ _ _ _ _ => exact readInside?_other hquote (fun h => hbackslash h.2) cs
    · next hd =>
      refine readInside?_other hquote ?_ cs
      cases d <;> simp_all [escapesInLiterals]

lemma readInside?_flatMap (d : Dialect) (value cs : List Char) :
    readInside? d.escapesInLiterals (value.flatMap d.literalChar ++ cs)
      = (readInside? d.escapesInLiterals cs).map (withFront value) := by
  induction value with
  | nil => exact (map_withFront_nil _).symm
  | cons c value ih =>
    rw [List.flatMap_cons, List.append_assoc, readInside?_literalChar, ih, map_withFront_map]
    rfl

/-! ### Ends -/

lemma readInside?_quote {rest : List Char} (h : rest.head? ≠ some '\'') (escapes : Bool) :
    readInside? escapes ('\'' :: rest) = some ([], rest) := by
  rw [readInside?]
  rintro cs rfl
  exact h rfl

lemma suffix_of_readInside? {escapes : Bool} {cs value rest : List Char}
    (h : readInside? escapes cs = some (value, rest)) : rest <:+ cs.tail := by
  fun_induction readInside? escapes cs generalizing value rest with
  | case1 => cases h
  | case2 cs ih =>
    obtain ⟨more, hread, -⟩ := map_withFront_eq_some.mp h
    exact (ih hread).trans ((List.tail_suffix cs).trans (List.suffix_cons _ cs))
  | case3 cs hcs =>
    cases h
    exact List.suffix_refl _
  | case4 c cs he ih =>
    obtain ⟨more, hread, -⟩ := map_withFront_eq_some.mp h
    exact (ih hread).trans ((List.tail_suffix cs).trans (List.suffix_cons _ cs))
  | case5 c cs he ih =>
    obtain ⟨more, hread, -⟩ := map_withFront_eq_some.mp h
    exact (ih hread).trans (List.suffix_cons c cs)
  | case6 c cs _ _ _ ih =>
    obtain ⟨more, hread, -⟩ := map_withFront_eq_some.mp h
    exact (ih hread).trans (List.tail_suffix cs)

/-! ### Literals -/

lemma toList_quoteLiteral_append (d : Dialect) (value : String) (rest : List Char) :
    (d.quoteLiteral value).toList ++ rest
      = '\'' :: (value.toList.flatMap d.literalChar ++ '\'' :: rest) := by
  simp [quoteLiteral]

/-- Whatever follows a literal, its value is read from the text it was written from and what a quote
behind that makes of the rest. -/
lemma readLiteral?_append (d : Dialect) (value : String) (rest : List Char) :
    d.readLiteral? ((d.quoteLiteral value).toList ++ rest)
      = (readInside? d.escapesInLiterals ('\'' :: rest)).map (withFront value.toList) := by
  rw [toList_quoteLiteral_append, readLiteral?, readInside?_flatMap]

lemma readLiteral?_closed (d : Dialect) (value : String) {rest : List Char}
    (h : rest.head? ≠ some '\'') :
    d.readLiteral? ((d.quoteLiteral value).toList ++ rest) = some (value.toList, rest) := by
  rw [readLiteral?_append, readInside?_quote h]
  simp [withFront]

/-- A text is read back from its literal, up to where the literal ends, unless another quote
follows. Different texts have different literals, and whatever follows a literal, reading does not
stop before its end. -/
theorem readLiteral?_quoteLiteral (d : Dialect) :
    (∀ (value : String) (rest : List Char), rest.head? ≠ some '\'' →
      d.readLiteral? ((d.quoteLiteral value).toList ++ rest) = some (value.toList, rest)) ∧
    Function.Injective d.quoteLiteral ∧
    ∀ (value : String) (rest found after : List Char),
      d.readLiteral? ((d.quoteLiteral value).toList ++ rest) = some (found, after) →
        value.toList <+: found ∧ after <:+ rest := by
  refine ⟨fun value rest h => readLiteral?_closed d value h, fun value value' h => ?_, ?_⟩
  · have hvalue : d.readLiteral? ((d.quoteLiteral value).toList ++ []) = some (value.toList, []) :=
      readLiteral?_closed d value (by simp)
    rw [h, readLiteral?_closed d value' (by simp)] at hvalue
    exact (String.toList_inj.mp (Prod.mk.inj (Option.some.inj hvalue)).1).symm
  · intro value rest found after h
    rw [readLiteral?_append] at h
    obtain ⟨more, hread, rfl⟩ := map_withFront_eq_some.mp h
    exact ⟨List.prefix_append _ _, suffix_of_readInside? hread⟩

/-- A backslash in front of a quote ends no literal. -/
theorem readLiteral?_quoteLiteral_backslash :
    readLiteral? .mysql ((quoteLiteral .mysql "\\' or 1=1 -- \n").toList ++ [';'])
      = some ("\\' or 1=1 -- \n".toList, [';']) :=
  (readLiteral?_quoteLiteral .mysql).1 _ _ (by decide)

example : readLiteral? .mysql "'it''s \\Z\\%\\q' x".toList
    = some ("it's \x1a\\%q".toList, " x".toList) := by decide

end QueryLoom.Dialect

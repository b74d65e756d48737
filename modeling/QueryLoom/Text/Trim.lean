import QueryLoom.Text.CharClass

/-!
# Cutting text

Removing white space at the ends, splitting at a character, looking for a piece of text, and cutting
at a byte offset.
-/

namespace QueryLoom.Text

/-! ### White space at the ends -/

/-- Drop the blanks in front. -/
def trimStart (cs : List Char) : List Char :=
  cs.dropWhile isBlank

/-- Drop the characters at the end that satisfy `p`. -/
def dropEndWhile (p : Char → Bool) (cs : List Char) : List Char :=
  (cs.reverse.dropWhile p).reverse

/-- Drop the blanks at the end. -/
def trimEnd (cs : List Char) : List Char :=
  dropEndWhile isBlank cs

/-- Drop the blanks at both ends. -/
def trim (cs : List Char) : List Char :=
  trimEnd (trimStart cs)

/-- The text without the blanks at its ends. -/
def trimmed (s : String) : String :=
  String.ofList (trim s.toList)

/-- Whether a text holds nothing but blanks. -/
def isBlankText (s : String) : Bool :=
  s.toList.all isBlank

/-! ### Pieces of text -/

/-- What follows `lead`, if the text begins with it. -/
def stripLead? : (lead : List Char) → List Char → Option (List Char)
  | [], cs => some cs
  | _ :: _, [] => none
  | l :: ls, c :: cs => if l == c then stripLead? ls cs else none

/-- What follows `lead` up to case, if the text begins with it. -/
def stripLeadIgnoringCase? : (lead : List Char) → List Char → Option (List Char)
  | [], cs => some cs
  | _ :: _, [] => none
  | l :: ls, c :: cs => if sameIgnoringCase l c then stripLeadIgnoringCase? ls cs else none

/-- The text before and after the first occurrence of `piece`. -/
def cutAt? (piece : List Char) : List Char → Option (List Char × List Char)
  | [] => if piece.isEmpty then some ([], []) else none
  | c :: cs =>
    match stripLead? piece (c :: cs) with
    | some rest => some ([], rest)
    | none => (cutAt? piece cs).map fun (before, rest) => (c :: before, rest)

/-- Whether `piece` occurs in the text. -/
def hasPiece (piece cs : List Char) : Bool :=
  (cutAt? piece cs).isSome

/-- Whether `piece` occurs in the string. -/
def contains (s piece : String) : Bool :=
  hasPiece piece.toList s.toList

/-- The strings between the occurrences of a character. -/
def splitAtChar (sep : Char) (s : String) : List String :=
  (s.toList.splitOn sep).map String.ofList

/-! ### Byte offsets -/

/-- The text in front of a byte offset. There is none for an offset inside a character or behind the
end. -/
def upTo? (s : String) (offset : Nat) : Option String :=
  if h : String.Pos.Raw.IsValid s ⟨offset⟩ then some (s.sliceTo (s.pos ⟨offset⟩ h)).copy else none

/-- The first byte offset from `n` backwards that is not inside a character. -/
def boundaryBefore (s : String) : (n : Nat) → Nat
  | 0 => 0
  | n + 1 => if String.Pos.Raw.isValid s ⟨n + 1⟩ then n + 1 else boundaryBefore s n

/-- The search ends at a boundary: at the latest in front of the text. -/
theorem isValid_boundaryBefore (s : String) (n : Nat) :
    String.Pos.Raw.IsValid s ⟨boundaryBefore s n⟩ := by
  induction n with
  | zero => exact String.Pos.Raw.isValid_zero
  | succ n ih =>
    rw [boundaryBefore]
    split
    next h => exact String.Pos.Raw.isValid_eq_true_iff.mp h
    next => exact ih

end QueryLoom.Text

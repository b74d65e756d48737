import QueryLoom.Text.Trim

/-!
# Trimming rendered text

What the trimming elements do to the text of their children: overrides (words and signs that must
not stand at an end) are removed, stray commas go, and a word is put in front of what is left.
-/

namespace QueryLoom.Markup

/-! ### Word boundaries -/

/-- Whether a word begins or ends between two neighbours. -/
def isBoundary (before after : Option Char) : Bool :=
  before.any Text.isWordChar != after.any Text.isWordChar

/-- What is removed at an end of a text: one of several pieces, compared up to case. -/
abbrev Overrides := List (List Char)

namespace Overrides

/-- Read overrides that are separated by bars; blank ones do not count. -/
def ofText (text : String) : Overrides :=
  (text.toList.splitOn '|').filter fun piece => !piece.all Text.isBlank

/-- What follows a piece at the start of a text, if it stands there. A piece that begins or ends
with a letter or number has to begin or end a word; `before` is the character in front. -/
def strip? (before : Option Char) (piece cs : List Char) : Option (List Char) := do
  let first ← piece.head?
  let last ← piece.getLast?
  if Text.isAlphanumeric first && !isBoundary before cs.head? then none
  let rest ← Text.stripLeadIgnoringCase? piece cs
  let found := cs.take piece.length
  if Text.isAlphanumeric last && !isBoundary found.getLast? rest.head? then none
  return rest

/-- Remove an override in front. -/
def dropLeading (o : Overrides) (cs : List Char) : List Char :=
  (o.findSome? fun piece => strip? none piece cs).getD cs

/-- Whether an override stands at the start of a text and nothing but blanks follows. -/
def endsHere (o : Overrides) (before : Option Char) (cs : List Char) : Bool :=
  o.any fun piece => (strip? before piece cs).any fun rest => rest.all Text.isBlank

/-- Remove the first override after which only blanks follow. -/
def dropTrailing (o : Overrides) (before : Option Char) : List Char → List Char
  | [] => []
  | c :: cs => if o.endsHere before (c :: cs) then [] else c :: o.dropTrailing (some c) cs

end Overrides

/-- How the text of an element is trimmed and what is put around it. -/
structure Trimming where
  lead : String
  tail : String
  leadOverrides : Overrides
  tailOverrides : Overrides
  /-- Whether the overrides in front are removed at the end, too. -/
  leadAtEnd : Bool

namespace Trimming

/-- The trimming of conditions. -/
def conditions : Trimming := ⟨"WHERE", "", Overrides.ofText "and|or", [], true⟩

/-- The text without overrides and without blanks at its ends. -/
def strip (t : Trimming) (cs : List Char) : List Char :=
  let cs := Text.trim cs
  let cs := Text.trim (t.leadOverrides.dropLeading cs)
  let cs := if t.leadAtEnd then Text.trim (t.leadOverrides.dropTrailing none cs) else cs
  Text.trim (t.tailOverrides.dropTrailing none cs)

/-- Trim a text and put the lead and the tail around it. Nothing is left of a text without ASCII
letters. -/
def apply (t : Trimming) (text : String) : String :=
  let body := t.strip text.toList
  if !body.any Text.isAsciiLetter then ""
  else
    " " ++ (if t.lead.isEmpty then "" else t.lead ++ " ") ++ String.ofList body ++
      (if t.tail.isEmpty then "" else " " ++ t.tail) ++ " "

end Trimming

/-! ### Commas -/

/-- What follows a comma and the word `where`, if they stand at the start of a text. -/
def afterCommaWhere? : List Char → Option (List Char)
  | ',' :: cs => do
    let rest ← Text.stripLeadIgnoringCase? "where".toList (Text.trimStart cs)
    if isBoundary (some 'e') rest.head? then some rest else none
  | _ => none

/-- Replace every comma in front of the word `where`, and that word, by ` WHERE `; `budget` is the
length of the text. -/
def dropCommaBeforeWhere : (budget : Nat) → List Char → List Char
  | 0, cs => cs
  | _, [] => []
  | budget + 1, c :: cs =>
    match afterCommaWhere? (c :: cs) with
    | some rest => " WHERE ".toList ++ dropCommaBeforeWhere budget rest
    | none => c :: dropCommaBeforeWhere budget cs

/-- Whether a character is a comma or a blank. -/
def isCommaOrBlank (c : Char) : Bool := c == ',' || Text.isBlank c

/-- Replace a comma and the commas and blanks after it, if those are two or more, by a comma and a
line break. `run` holds what has been read of such a run, in reverse. -/
def collapseCommas (run : Option (List Char)) : List Char → List Char
  | [] => finish run
  | c :: cs =>
    match run with
    | some more =>
      if isCommaOrBlank c then collapseCommas (some (c :: more)) cs
      else finish (some more) ++ c :: collapseCommas none cs
    | none => if c == ',' then collapseCommas (some []) cs else c :: collapseCommas none cs
where
  /-- The text of a run that is over. -/
  finish : Option (List Char) → List Char
    | none => []
    | some more => if more.length ≥ 2 then [',', '\n'] else ',' :: more.reverse

/-- The text without a comma in front, or after blanks in front. -/
def dropLeadingComma (cs : List Char) : List Char :=
  match Text.trimStart cs with
  | ',' :: rest => rest
  | _ => cs

/-- The text without the last comma, if only blanks follow it, and without those. -/
def dropTrailingComma : List Char → List Char
  | [] => []
  | c :: cs => if c == ',' && cs.all Text.isBlank then [] else c :: dropTrailingComma cs

/-- The text of an assignment list, without stray commas. -/
def tidyAssignments (cs : List Char) : List Char :=
  dropTrailingComma (dropLeadingComma (collapseCommas none cs))

end QueryLoom.Markup

import QueryLoom.Template.Tag

/-!
# Pieces of a template

A template is a sequence of runs of text and tags. A backslash before the opening braces of a tag
takes their meaning away; of several backslashes there one is dropped and the tag counts.

A tag is alone when nothing but blanks share its line with it. White space around tags is removed
where a tilde asks for it, and the line of a tag that is alone disappears.
-/

namespace QueryLoom.Template

/-- A run of text, or a tag. -/
inductive Piece where
  | text (cs : List Char)
  | tag (t : Tag) (alone : Bool)

namespace Piece

open Reference (isSpace skipSpace)

/-! ### Runs of text -/

/-- The braces that open a tag. -/
def braces : List Char := "\x7b\x7b".toList

/-- The braces that end a verbatim text. -/
def wideBraces : List Char := "\x7b\x7b\x7b\x7b".toList

/-- Whether `lead` begins the text. -/
def startsWith (lead cs : List Char) : Bool := (Text.stripLead? lead cs).isSome

/-- Whether more backslashes and then the braces of a tag follow. -/
def slashesFollow (cs : List Char) : Bool :=
  cs.head? == some '\\' && startsWith braces (cs.dropWhile (· == '\\'))

/-- The text up to `stop`, and what follows. Within a row of backslashes that has lost its first
one, `inRow`, the others stay. -/
def readRun (stop : List Char) (inRow : Bool) : List Char → List Char × List Char
  | [] => ([], [])
  | '\\' :: '\x7b' :: '\x7b' :: cs =>
    if inRow then
      let (run, rest) := readRun stop false ('\x7b' :: '\x7b' :: cs)
      ('\\' :: run, rest)
    else
      match cs with
      | '\x7b' :: '\x7b' :: cs =>
        let (run, rest) := readRun stop false cs
        (wideBraces ++ run, rest)
      | cs =>
        let (run, rest) := readRun stop false cs
        (braces ++ run, rest)
  | c :: cs =>
    if c == '\\' then
      if !inRow && slashesFollow cs then readRun stop true cs
      else
        let (run, rest) := readRun stop inRow cs
        (c :: run, rest)
    else if startsWith stop (c :: cs) then ([], c :: cs)
    else
      let (run, rest) := readRun stop false cs
      (c :: run, rest)

/-! ### Lines -/

/-- A blank inside a line. -/
def isLineBlank (c : Char) : Bool := c == ' ' || c == '\t'

/-- A character that ends a line. -/
def isLineEnd (c : Char) : Bool := c == '\n' || c == '\r'

/-- Whether the line holds nothing but blanks after more text; `before` says it of the text
before. -/
def lineBlankAfter (before : Bool) (cs : List Char) : Bool :=
  cs.foldl (fun blank c => isLineEnd c || (blank && isLineBlank c)) before

/-- Whether only blanks follow in the line. -/
def lineEnds (cs : List Char) : Bool :=
  match cs.dropWhile isLineBlank with
  | c :: _ => isLineEnd c
  | [] => cs.isEmpty

/-! ### Reading -/

/-- A run of text as a piece, if there is any. -/
def ofRun (run : List Char) : List Piece := if run.isEmpty then [] else [.text run]

/-- A verbatim block after its opening braces: its pieces and what follows. -/
def readVerbatim? (lineBlank : Bool) (cs : List Char) : Option (List Piece × List Char) := do
  let (opening, rest) ← Tag.readWideOpening? cs
  let (run, after) := readRun wideBraces false (skipSpace rest)
  let (closing, after) ← (Text.stripLead? wideBraces after).bind Tag.readWideClosing?
  let skipped := rest.takeWhile isSpace
  return ([.tag opening (lineBlank && lineEnds rest)] ++ ofRun run ++
    [.tag closing (lineBlankAfter false (skipped ++ run) && lineEnds after)], after)

/-- A tag or a verbatim block at its opening braces. -/
def readTag? (lineBlank : Bool) (cs : List Char) : Option (List Piece × List Char) :=
  match Text.stripLead? wideBraces cs with
  | some rest => readVerbatim? lineBlank rest
  | none => do
    let rest ← Text.stripLead? braces cs
    let (t, rest) ← Tag.read? rest
    return ([.tag t (lineBlank && lineEnds rest)], rest)

/-- The pieces of a text; `budget` bounds the number of tags. -/
def readAll? (lineBlank : Bool) : (budget : Nat) → List Char → Option (List Piece)
  | 0, _ => none
  | budget + 1, cs =>
    let (run, rest) := readRun braces false cs
    if rest.isEmpty then some (ofRun run)
    else do
      let (tags, rest) ← readTag? (lineBlankAfter lineBlank run) rest
      let pieces ← readAll? false budget rest
      return ofRun run ++ tags ++ pieces

/-- The pieces of a template. -/
def ofText? (cs : List Char) : Option (List Piece) := readAll? true (cs.length + 1) cs

/-! ### Layout -/

/-- The text without blanks in front and without the line end after them. -/
def dropLine (cs : List Char) : List Char :=
  match cs.dropWhile isLineBlank with
  | '\r' :: '\n' :: rest => rest
  | '\n' :: rest => rest
  | rest => rest

/-- The text without what a following tag removes at its end. -/
def trimBefore (next : Option Piece) (cs : List Char) : List Char :=
  match next with
  | some (.tag t alone) =>
    let cs := if t.omitBefore then Text.trimEnd cs else cs
    match t.role with
    | .output _ => cs
    | _ => if alone then Text.dropEndWhile isLineBlank cs else cs
  | _ => cs

/-- Remove white space around tags. `omitted` says that the tag before removes it all, and
`lineGone` that the tag before was alone in its line. -/
def layOut (omitted lineGone : Bool) : List Piece → List Piece
  | [] => []
  | .text cs :: rest =>
    if omitted && cs.all isSpace then layOut omitted lineGone rest
    else
      let kept := if omitted then Text.trimStart cs else if lineGone then dropLine cs else cs
      .text (trimBefore rest.head? kept) :: layOut omitted false rest
  | .tag t alone :: rest =>
    match t.role with
    | .note => .tag t alone :: layOut omitted alone rest
    | .output _ => .tag t alone :: layOut t.omitAfter lineGone rest
    | _ => .tag t alone :: layOut t.omitAfter alone rest

end Piece

end QueryLoom.Template

import QueryLoom.Template.Argument

/-!
# Tags

A tag stands between two pairs of braces. It writes a value, opens or closes a block, begins the
alternative of a block, inserts another template, or is a note. A tilde next to the braces removes
the white space on that side of the tag.
-/

namespace QueryLoom.Template

/-! ### Types -/

/-- What a tag is about: a plain name, a reference, or the result of a call. -/
inductive Target where
  | name (s : String)
  | reference (r : Reference)
  | computed (a : Argument)

/-- What a tag is about, with arguments and names for the values in the block it opens. -/
structure Invocation where
  target : Target
  positional : List Argument
  named : KeyMap Argument
  blockNames : List String

/-- The kinds of blocks. -/
inductive BlockKind where
  /-- Content that a helper renders. -/
  | helper
  /-- Content that is not read for tags. -/
  | verbatim
  /-- Content for an inserted template. -/
  | insertion
  /-- A definition. -/
  | definition
  deriving DecidableEq, Repr

/-- What a tag does. -/
inductive TagRole where
  | output (i : Invocation)
  | opening (kind : BlockKind) (i : Invocation)
  | alternative (i? : Option Invocation)
  | closing (verbatim : Bool) (name : String)
  | insertion (i : Invocation)
  /-- A use of something defined outside, which nothing is. -/
  | foreignUse
  | note

/-- A tag. -/
structure Tag where
  role : TagRole
  omitBefore : Bool
  omitAfter : Bool

namespace Tag

open Reference (isSymbol isSpace isSeparator skipSpace readName?)

/-! ### Names and arguments -/

/-- A call of a helper with at least one argument. -/
def readValue? (cs : List Char) : Option (Invocation × List Char) :=
  match readName? cs with
  | none => none
  | some (name, rest) =>
    let (positional, named, rest) := Argument.readAll (rest.length + 1) rest
    if positional.isEmpty && named.isEmpty then none
    else some (⟨.name (String.ofList name), positional, KeyMap.ofEntries named, []⟩, rest)

/-- A reference or a call in parentheses, without further arguments. -/
def readPlainValue? (cs : List Char) : Option (Invocation × List Char) :=
  match Argument.readCall? (cs.length + 1) cs with
  | some (a, rest) => some (⟨.computed a, [], [], []⟩, rest)
  | none => (Reference.read? cs).map fun (r, rest) => (⟨.reference r, [], [], []⟩, rest)

/-- The names for values in a block: one or two between bars. -/
def readBlockNames? (cs : List Char) : Option (List String × List Char) := do
  let rest ← Text.stripLead? "as".toList (skipSpace cs)
  let rest ← Text.stripLead? ['|'] (skipSpace rest)
  let (first, rest) ← readName? (skipSpace rest)
  let (second, rest) := match readName? (skipSpace rest) with
    | some (name, rest) => ([String.ofList name], rest)
    | none => ([], rest)
  let rest ← Text.stripLead? ['|'] (skipSpace rest)
  return (String.ofList first :: second, rest)

/-- A helper with its arguments and names. -/
def readHelper? (cs : List Char) : Option (Invocation × List Char) := do
  let (name, rest) ← readName? cs
  let (positional, named, rest) := Argument.readAll (rest.length + 1) rest
  let (names, rest) := (readBlockNames? rest).getD ([], rest)
  return (⟨.name (String.ofList name), positional, KeyMap.ofEntries named, names⟩, rest)

/-- A character of the name of a template. -/
def isTemplateChar (c : Char) : Bool := isSymbol c || isSeparator c

/-- The rest of a quoted name, up to its closing quote and with it. -/
def readQuotedRest? : List Char → Option (List Char × List Char)
  | [] => none
  | '\'' :: rest => some (['\''], rest)
  | '\\' :: '\'' :: rest =>
    (readQuotedRest? rest).map fun (name, rest) => ('\\' :: '\'' :: name, rest)
  | c :: rest => (readQuotedRest? rest).map fun (name, rest) => (c :: name, rest)

/-- The name of a template after its opening single quote. -/
def readQuotedName? (cs : List Char) : Option (List Char × List Char) :=
  if cs.head? == some '\'' then none
  else (readQuotedRest? cs).map fun (name, rest) => ('\'' :: name, rest)

/-- The name of a template, plain or in single quotes; the quotes are part of the name. -/
def readTemplateName? (cs : List Char) : Option (List Char × List Char) :=
  match cs with
  | '\'' :: rest => readQuotedName? rest
  | cs =>
    let name := cs.takeWhile isTemplateChar
    if name.isEmpty then none else some (name, cs.drop name.length)

/-- A template with its arguments. -/
def readTemplate? (cs : List Char) : Option (Invocation × List Char) := do
  let (target, rest) ← match readTemplateName? cs with
    | some (name, rest) => some (Target.name (String.ofList name), rest)
    | none => (readPlainValue? cs).map fun (i, rest) => (i.target, rest)
  let (positional, named, rest) := Argument.readAll (rest.length + 1) rest
  return (⟨target, positional, KeyMap.ofEntries named, []⟩, rest)

/-! ### Ends of tags -/

/-- Whether there is a tilde, and what follows it. -/
def readTilde (cs : List Char) : Bool × List Char :=
  match skipSpace cs with
  | '~' :: rest => (true, skipSpace rest)
  | rest => (false, rest)

/-- A tag with its end in the given braces. -/
def close? (braces : String) (omitBefore : Bool) (role : TagRole) (cs : List Char) :
    Option (Tag × List Char) :=
  let (omitAfter, rest) := readTilde cs
  (Text.stripLead? braces.toList rest).map fun rest => (⟨role, omitBefore, omitAfter⟩, rest)

/-- A tag with its end in two braces. -/
def finish? : (omitBefore : Bool) → (role : TagRole) → (cs : List Char) →
    Option (Tag × List Char) := close? "\x7d\x7d"

/-- A tag that writes a value. -/
def readOutput? (omitBefore : Bool) (cs : List Char) : Option (Tag × List Char) :=
  let called := do
    let (i, rest) ← readValue? cs
    finish? omitBefore (.output i) rest
  match called with
  | some found => some found
  | none => do
    let (i, rest) ← readPlainValue? cs
    finish? omitBefore (.output i) rest

/-! ### Alternatives -/

/-- What follows the word for an alternative. -/
def afterElse? (cs : List Char) : Option (List Char) :=
  match cs with
  | '^' :: rest => some rest
  | cs => Text.stripLead? "else".toList cs

/-- The beginning of the alternative of a block, which may be a block of its own. -/
def readAlternative? (omitBefore : Bool) (cs : List Char) : Option (Tag × List Char) := do
  let rest ← afterElse? cs
  match finish? omitBefore (.alternative none) rest with
  | some found => some found
  | none =>
    let (i, rest) ← readHelper? (skipSpace rest)
    finish? omitBefore (.alternative (some i)) rest

/-! ### Values in three braces -/

/-- A value before the third closing brace, without that brace. -/
def closeInner? (found : Option (Invocation × List Char)) : Option (Invocation × List Char) := do
  let (i, rest) ← found
  let rest ← Text.stripLead? ['\x7d'] (skipSpace rest)
  return (i, rest)

/-- A value in three braces with its tildes outside the third ones, after the third brace. -/
def readTildeOutside? (omitBefore : Bool) (cs : List Char) : Option (Tag × List Char) := do
  let cs := skipSpace cs
  let (i, rest) ← match closeInner? (readValue? cs) with
    | some found => some found
    | none => closeInner? (readPlainValue? cs)
  finish? omitBefore (.output i) rest

/-- A value in three braces with its tildes inside them, after the third brace. -/
def readTildeInside? (cs : List Char) : Option (Tag × List Char) :=
  let (omitBefore, cs) := readTilde cs
  let close (found : Option (Invocation × List Char)) : Option (Tag × List Char) := do
    let (i, rest) ← found
    close? "\x7d\x7d\x7d" omitBefore (.output i) rest
  match close (readValue? cs) with
  | some found => some found
  | none => close (readPlainValue? cs)

/-! ### Notes -/

/-- What follows a note, after its exclamation mark: a long note ends at two dashes. -/
def afterNote? (cs : List Char) : Option (List Char) :=
  let long := (Text.stripLead? "--".toList (skipSpace cs)).bind (Text.cutAt? "--\x7d\x7d".toList)
  match long with
  | some (_, rest) => some rest
  | none => (Text.cutAt? "\x7d\x7d".toList cs).map Prod.snd

/-! ### Whole tags -/

/-- What opens a block, after the number sign. -/
def readOpening? (omitBefore : Bool) (cs : List Char) : Option (Tag × List Char) :=
  match cs with
  | '*' :: rest => do
    let (i, rest) ← readHelper? (skipSpace rest)
    finish? omitBefore (.opening .definition i) rest
  | '>' :: rest => do
    let (i, rest) ← readTemplate? (skipSpace rest)
    finish? omitBefore (.opening .insertion i) rest
  | cs => do
    let (i, rest) ← readHelper? cs
    finish? omitBefore (.opening .helper i) rest

/-- A tag by its first sign, after white space and a tilde. -/
def readMarked? (omitBefore : Bool) (cs : List Char) : Option (Tag × List Char) :=
  match cs with
  | '#' :: rest => readOpening? omitBefore (skipSpace rest)
  | '/' :: rest => do
    let (name, rest) ← readTemplateName? (skipSpace rest)
    finish? omitBefore (.closing false (String.ofList name)) rest
  | '>' :: rest => do
    let (i, rest) ← readTemplate? (skipSpace rest)
    finish? omitBefore (.insertion i) rest
  | '&' :: rest => do
    let (i, rest) ← readPlainValue? (skipSpace rest)
    finish? omitBefore (.output i) rest
  | '*' :: rest => do
    let (_, rest) ← readHelper? (skipSpace rest)
    finish? omitBefore .foreignUse rest
  | '\x7b' :: rest => readTildeOutside? omitBefore rest
  | cs =>
    match readAlternative? omitBefore cs with
    | some found => some found
    | none => readOutput? omitBefore cs

/-- A tag after its opening braces, and what follows it. -/
def read? (cs : List Char) : Option (Tag × List Char) :=
  match cs with
  | '!' :: rest => (afterNote? rest).map fun rest => (⟨.note, false, false⟩, rest)
  | cs =>
    let tildeInside := (Text.stripLead? ['\x7b'] cs).bind readTildeInside?
    match tildeInside with
    | some found => some found
    | none =>
      let (omitBefore, rest) := readTilde cs
      readMarked? omitBefore rest

/-! ### Verbatim blocks -/

/-- The tag that opens a verbatim block, after its opening braces. -/
def readWideOpening? (cs : List Char) : Option (Tag × List Char) := do
  let (omitBefore, rest) := readTilde cs
  let (i, rest) ← readHelper? rest
  close? "\x7d\x7d\x7d\x7d" omitBefore (.opening .verbatim i) rest

/-- The tag that closes a verbatim block, after its opening braces. -/
def readWideClosing? (cs : List Char) : Option (Tag × List Char) := do
  let (omitBefore, rest) := readTilde cs
  let rest ← Text.stripLead? ['/'] rest
  let (name, rest) ← readName? (skipSpace rest)
  close? "\x7d\x7d\x7d\x7d" omitBefore (.closing true (String.ofList name)) rest

end Tag

end QueryLoom.Template

import QueryLoom.Text.Trim

/-!
# References

A template refers to a value by names between separators, such as `user.tags.[0]`. A reference may
begin at the root, climb to the blocks around it, or mean a variable of a block, marked by `@`.
-/

namespace QueryLoom.Template

/-- One step of a reference. -/
inductive RefStep where
  | root
  | marked
  | up
  | name (s : String)
  deriving DecidableEq, Repr

/-- A reference as it is written, and its steps. -/
structure Reference where
  text : String
  steps : List RefStep
  deriving DecidableEq, Repr

namespace Reference

/-! ### Characters -/

/-- A character of a name: ASCII letters and digits, a few signs, and all that is not ASCII. -/
def isSymbol (c : Char) : Bool :=
  Text.isAsciiAlphanumeric c || c == '_' || c == '-' || c == '$' || c == ':' || c == '?' ||
    c.toNat ≥ 0x80

/-- The white space between the parts of a tag. -/
def isSpace (c : Char) : Bool :=
  c == ' ' || c == '\t' || c == '\n' || c == '\r'

/-- What separates the names of a reference. -/
def isSeparator (c : Char) : Bool := c == '.' || c == '/'

/-- The text without white space in front. -/
def skipSpace (cs : List Char) : List Char := cs.dropWhile isSpace

/-- A name at the start of a text, and what follows it. -/
def readName? (cs : List Char) : Option (List Char × List Char) :=
  let name := cs.takeWhile isSymbol
  if name.isEmpty then none else some (name, cs.drop name.length)

/-! ### Reading -/

/-- What follows a separator, if the text begins with one. -/
def afterSeparator? : List Char → Option (List Char)
  | c :: cs => if isSeparator c then some cs else none
  | [] => none

/-- A name, or any text in square brackets. -/
def readItem? : List Char → Option (List Char × List Char)
  | '[' :: cs => Text.cutAt? [']'] cs
  | cs => readName? cs

/-- The step of a name; `this` is no step at all. -/
def nameStep (name : List Char) : List RefStep :=
  if name == "this".toList then [] else [.name (String.ofList name)]

/-- The steps up at the start of a text; `budget` bounds their number. -/
def readUps : (budget : Nat) → List Char → List RefStep × List Char
  | 0, cs => ([], cs)
  | budget + 1, cs =>
    match (Text.stripLead? "..".toList cs).bind afterSeparator? with
    | some rest =>
      let (steps, rest) := readUps budget rest
      (.up :: steps, rest)
    | none => ([], cs)

/-- The further names of a reference; `budget` bounds their number. -/
def readItems : (budget : Nat) → List Char → List RefStep × List Char
  | 0, cs => ([], cs)
  | budget + 1, cs =>
    match (afterSeparator? cs).bind readItem? with
    | some (name, rest) =>
      let (steps, rest) := readItems budget rest
      (nameStep name ++ steps, rest)
    | none => ([], cs)

/-- What follows a mention of the current value in front of a reference. -/
def afterCurrent (cs : List Char) : List Char :=
  match (Text.stripLead? "this".toList cs).bind afterSeparator? with
  | some rest => rest
  | none => (Text.stripLead? "./".toList cs).getD cs

/-- A mention of the root or a mark, and what follows. -/
def readOrigin (cs : List Char) : List RefStep × List Char :=
  let (root, cs) := match (Text.stripLead? "@root".toList cs).bind afterSeparator? with
    | some rest => ([RefStep.root], rest)
    | none => ([], cs)
  match cs with
  | '@' :: rest => (root ++ [.marked], rest)
  | cs => (root, cs)

/-- A reference at the start of a text, and what follows it. -/
def read? (cs : List Char) : Option (Reference × List Char) := do
  let (origin, rest) := readOrigin (afterCurrent cs)
  let (ups, rest) := readUps rest.length rest
  let (name, rest) ← readItem? rest
  let (more, rest) := readItems rest.length rest
  return (⟨String.ofList (cs.take (cs.length - rest.length)),
    origin ++ ups ++ nameStep name ++ more⟩, rest)

/-- The reference to the current value. -/
def current : Reference := ⟨"this", []⟩

/-- The reference by a single name. -/
def ofName (name : String) : Reference := ⟨name, nameStep name.toList⟩

/-! ### Views -/

/-- The names of a reference, without the other steps. -/
def names (steps : List RefStep) : List String :=
  steps.filterMap fun
    | .name s => some s
    | _ => none

end Reference

end QueryLoom.Template

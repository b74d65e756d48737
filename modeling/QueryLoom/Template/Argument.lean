import QueryLoom.Json.Reader
import QueryLoom.KeyMap
import QueryLoom.Template.Reference

/-!
# Arguments

What a helper is given: literals, references, and calls of other helpers in parentheses; further
arguments have names. Literals have the notation of JSON, and strings may be in single quotes.
-/

namespace QueryLoom.Template

/-- An argument. -/
inductive Argument where
  | literal (value : Json)
  | reference (r : Reference)
  | call (name : String) (positional : List Argument) (named : List (String × Argument))

namespace Argument

open Reference (isSymbol isSpace skipSpace readName?)

/-! ### Literals -/

/-- What follows a string in the given quotes, after its opening quote. -/
def afterString? (quote : Char) : List Char → Option (List Char)
  | [] => none
  | '\\' :: 'u' :: a :: b :: c :: d :: rest =>
    if [a, b, c, d].all fun x => (Json.hexValue? x).isSome then afterString? quote rest else none
  | '\\' :: e :: rest =>
    if e == quote || e == '\\' || e == '/' || e == 'b' || e == 'f' || e == 'n' || e == 'r' ||
      e == 't' then afterString? quote rest
    else none
  | c :: rest =>
    if c == quote then some rest else if c == '\\' then none else afterString? quote rest

/-- What follows a word, if the text begins with the whole of it. -/
def afterWord? (word : List Char) (cs : List Char) : Option (List Char) :=
  (Text.stripLead? word cs).filter fun rest => !rest.head?.any isSymbol

/-- What follows an exponent; a text without one stays. -/
def afterExponent (cs : List Char) : List Char :=
  match cs with
  | 'E' :: rest =>
    let rest := match rest with
      | '-' :: rest => rest
      | rest => rest
    if rest.head?.any Text.isAsciiDigit then rest.dropWhile Text.isAsciiDigit else cs
  | cs => cs

/-- What follows a number. -/
def afterNumber? (cs : List Char) : Option (List Char) :=
  let digits := match cs with
    | '-' :: rest => rest
    | cs => cs
  if !digits.head?.any Text.isAsciiDigit then none
  else
    let rest := match digits.dropWhile Text.isAsciiDigit with
      | '.' :: rest => rest.dropWhile Text.isAsciiDigit
      | rest => rest
    (some (afterExponent rest)).filter fun rest => !rest.head?.any isSymbol

/-- What follows a string with its quotes. -/
def afterQuoted? : List Char → Option (List Char)
  | '"' :: rest => afterString? '"' rest
  | '\'' :: rest => afterString? '\'' rest
  | _ => none

mutual

/-- What follows a literal at the start of a text; `budget` bounds its length. -/
def afterLiteral? : (budget : Nat) → List Char → Option (List Char)
  | 0, _ => none
  | budget + 1, cs =>
    match cs with
    | '[' :: rest =>
      match skipSpace rest with
      | ']' :: rest => some rest
      | ',' :: rest => afterItems? budget (',' :: rest)
      | rest => (afterLiteral? budget rest).bind (afterItems? budget)
    | '\x7b' :: rest =>
      match skipSpace rest with
      | '\x7d' :: rest => some rest
      | ',' :: rest => afterPairs? budget (',' :: rest)
      | rest => (afterPair? budget rest).bind (afterPairs? budget)
    | cs =>
      match afterQuoted? cs with
      | some rest => some rest
      | none =>
        match afterNumber? cs with
        | some rest => some rest
        | none =>
          ["null".toList, "true".toList, "false".toList].findSome? fun word => afterWord? word cs

/-- What follows the further items of an array and its bracket. -/
def afterItems? : (budget : Nat) → List Char → Option (List Char)
  | 0, _ => none
  | budget + 1, cs =>
    match skipSpace cs with
    | ',' :: rest => (afterLiteral? budget (skipSpace rest)).bind (afterItems? budget)
    | ']' :: rest => some rest
    | _ => none

/-- What follows a key and its value. -/
def afterPair? : (budget : Nat) → List Char → Option (List Char)
  | 0, _ => none
  | budget + 1, cs =>
    match (afterQuoted? cs).map skipSpace with
    | some (':' :: rest) => afterLiteral? budget (skipSpace rest)
    | _ => none

/-- What follows the further entries of an object and its brace. -/
def afterPairs? : (budget : Nat) → List Char → Option (List Char)
  | 0, _ => none
  | budget + 1, cs =>
    match skipSpace cs with
    | ',' :: rest => (afterPair? budget (skipSpace rest)).bind (afterPairs? budget)
    | '\x7d' :: rest => some rest
    | _ => none

end

/-- The JSON string for what stands in single quotes. -/
def requoted : List Char → List Char
  | '\\' :: '\'' :: rest => '\'' :: requoted rest
  | '"' :: rest => '\\' :: '"' :: requoted rest
  | c :: rest => c :: requoted rest
  | [] => []

/-- The value of a literal. -/
def valueOf? (source : List Char) : Option Json :=
  match source with
  | '\'' :: rest => Json.parse? (String.ofList ('"' :: requoted rest.dropLast ++ ['"']))
  | source => Json.parse? (String.ofList source)

/-! ### Arguments -/

/-- Whether a word with a meaning of its own begins here. -/
def startsKeyword (cs : List Char) : Bool :=
  ["as".toList, "else".toList].any fun word =>
    (Text.stripLead? word cs).any fun rest => !(skipSpace rest).head?.any isSymbol

mutual

/-- An argument at the start of a text, and what follows it; `budget` bounds its length. -/
def read? : (budget : Nat) → List Char → Option (Argument × List Char)
  | 0, _ => none
  | budget + 1, cs =>
    if startsKeyword cs then none
    else
      match afterLiteral? (cs.length + 1) cs with
      | some rest =>
        (valueOf? (cs.take (cs.length - rest.length))).map fun value => (.literal value, rest)
      | none =>
        match Reference.read? cs with
        | some (r, rest) => some (.reference r, rest)
        | none => readCall? budget cs

/-- A call in parentheses. Without arguments, it names its helper by a reference. -/
def readCall? : (budget : Nat) → List Char → Option (Argument × List Char)
  | 0, _ => none
  | budget + 1, cs =>
    match cs with
    | '(' :: rest =>
      let rest := skipSpace rest
      let withArguments := do
        let (name, rest) ← readName? rest
        let (positional, named, rest) := readAll budget rest
        if positional.isEmpty && named.isEmpty then none
        else
          match skipSpace rest with
          | ')' :: rest => some (.call (String.ofList name) positional (KeyMap.ofEntries named), rest)
          | _ => none
      match withArguments with
      | some found => some found
      | none => do
        let (r, rest) ← Reference.read? rest
        match skipSpace rest with
        | ')' :: rest => some (.call r.text [] [], rest)
        | _ => none
    | _ => none

/-- The arguments at the start of a text, the ones without and the ones with a name, and what
follows them. -/
def readAll : (budget : Nat) → List Char → List Argument × List (String × Argument) × List Char
  | 0, cs => ([], [], cs)
  | budget + 1, cs =>
    match readNamed? budget (skipSpace cs) with
    | some (name, a, rest) =>
      let (positional, named, rest) := readAll budget rest
      (positional, (name, a) :: named, rest)
    | none =>
      match read? budget (skipSpace cs) with
      | some (a, rest) =>
        let (positional, named, rest) := readAll budget rest
        (a :: positional, named, rest)
      | none => ([], [], cs)

/-- An argument with its name. -/
def readNamed? : (budget : Nat) → List Char → Option (String × Argument × List Char)
  | 0, _ => none
  | budget + 1, cs => do
    let (name, rest) ← readName? cs
    match skipSpace rest with
    | '=' :: rest =>
      let (a, rest) ← read? budget (skipSpace rest)
      return (String.ofList name, a, rest)
    | _ => none

end

end Argument

end QueryLoom.Template

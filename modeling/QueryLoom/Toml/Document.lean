import QueryLoom.Toml.Scalar

/-!
# TOML documents

A document is a sequence of lines: headers, which open a table, and keys with their values, which go
into the table opened last. Arrays and inline tables may go on over several lines.
-/

namespace QueryLoom.Toml

/-- How deep arrays and inline tables may nest. -/
def maxDepth : Nat := 80

/-! ### Blanks -/

/-- Drop the blanks in front of the rest of a line. -/
def skipSpace (cs : List Char) : List Char := cs.dropWhile isSpace

/-- Drop a comment up to the end of its line. -/
def skipComment (cs : List Char) : Except String (List Char) :=
  match cs with
  | '#' :: rest =>
    let rest := rest.dropWhile (!isControl ·)
    if rest.isEmpty || (afterBreak? rest).isSome then .ok rest
    else .error "a comment holds a control character"
  | cs => .ok cs

/-- Drop what ends a line: blanks, a comment, and the line break or the end of the text. -/
def endLine (cs : List Char) : Except String (List Char) := do
  let rest ← skipComment (skipSpace cs)
  match afterBreak? rest with
  | some rest => return rest
  | none => if rest.isEmpty then return [] else throw "the line does not end here"

/-- Drop blanks, comments and line breaks; `budget` bounds their number. -/
def skipGap : (budget : Nat) → List Char → Except String (List Char)
  | 0, cs => .ok cs
  | budget + 1, cs => do
    let rest ← skipComment (skipSpace cs)
    match afterBreak? rest with
    | some rest => skipGap budget rest
    | none => return rest

/-- Drop all blanks, comments and line breaks. -/
def skipGaps (cs : List Char) : Except String (List Char) := skipGap cs.length cs

/-! ### Keys -/

/-- A character of a key without quotes. -/
def isKeyChar (c : Char) : Bool :=
  Text.isAsciiAlphanumeric c || c == '_' || c == '-'

/-- One key. -/
def readKey (cs : List Char) : Except String (String × List Char) :=
  match readKeyText? cs with
  | some (text, rest) => .ok (String.ofList text, rest)
  | none =>
    let key := cs.takeWhile isKeyChar
    if key.isEmpty then .error "a key is missing" else .ok (String.ofList key, cs.drop key.length)

/-- Keys with dots between them; `budget` bounds their number. -/
def readKeys : (budget : Nat) → List Char → Except String (List String × List Char)
  | 0, _ => .error "a key is missing"
  | budget + 1, cs => do
    let (key, rest) ← readKey cs
    match skipSpace rest with
    | '.' :: rest =>
      let (keys, rest) ← readKeys budget (skipSpace rest)
      return (key :: keys, rest)
    | rest => return ([key], rest)

/-- A dotted key: the path to its table, the key itself, and what follows it and its blanks. -/
def readPath (cs : List Char) : Except String ((List String × String) × List Char) := do
  let (keys, rest) ← readKeys cs.length cs
  match keys.getLast? with
  | some key => return ((keys.dropLast, key), rest)
  | none => throw "a key is missing"

/-! ### Values -/

/-- A reader takes the remaining text and returns what it has read with what follows it. -/
abbrev Reader (α : Type) := List Char → Except String (α × List Char)

/-- The items of an array after its bracket; `budget` bounds their number. -/
def readItems (value : Reader Value) :
    (budget : Nat) → List Char → Except String (List Value × List Char)
  | 0, _ => .error "the array is open"
  | budget + 1, cs => do
    match ← skipGaps cs with
    | ']' :: rest => return ([], rest)
    | cs =>
      let (item, rest) ← value cs
      match ← skipGaps rest with
      | ',' :: rest =>
        let (items, rest) ← readItems value budget rest
        return (item :: items, rest)
      | ']' :: rest => return ([item], rest)
      | _ => throw "the array is open"

/-- A key with its value, put into a table. -/
def readEntry (value : Reader Value) (cs : List Char) :
    Except String (Change × List Char) := do
  let ((path, key), rest) ← readPath cs
  match rest with
  | '=' :: rest =>
    let (v, rest) ← value (skipSpace rest)
    return (descend .dotted path (put key v), rest)
  | _ => throw "a value is missing"

/-- The entries of an inline table after its brace; `budget` bounds their number. -/
def readEntries (value : Reader Value) :
    (budget : Nat) → Entries → List Char → Except String (Entries × List Char)
  | 0, _, _ => .error "the table is open"
  | budget + 1, es, cs => do
    match ← skipGaps cs with
    | '\x7d' :: rest => return (es, rest)
    | cs =>
      let (change, rest) ← readEntry value cs
      let es ← change es
      match ← skipGaps rest with
      | ',' :: rest => readEntries value budget es rest
      | '\x7d' :: rest => return (es, rest)
      | _ => throw "the table is open"

/-- A value in which at most `depth` arrays and inline tables are nested. -/
def readValue (depth : Nat) (cs : List Char) : Except String (Value × List Char) :=
  match depth, cs with
  | depth + 1, '[' :: rest =>
    (readItems (readValue depth) rest.length rest).map fun (items, rest) => (.array items, rest)
  | depth + 1, '\x7b' :: rest =>
    (readEntries (readValue depth) rest.length [] rest).map fun (es, rest) =>
      (.table .inline es, rest)
  | _, cs =>
    if cs.head?.any fun c => c == '"' || c == '\'' then
      match readText? cs with
      | some (text, rest) => .ok (.string (String.ofList text), rest)
      | none => .error "the string is malformed"
    else
      let (text, rest) := takeScalar cs
      match scalar? text with
      | some v => .ok (v, rest)
      | none => .error "the value is malformed"

/-! ### Documents -/

/-- What has been read of a document: its entries and the path of the table opened last. -/
structure Document where
  entries : Entries
  header : List String

/-- Read a header, given what opens its table and the brackets that close it. -/
def readHeader (doc : Document) (opening : String → Change) (brackets : List Char)
    (cs : List Char) : Except String (Document × List Char) := do
  let ((path, key), rest) ← readPath (skipSpace cs)
  match Text.stripLead? brackets rest with
  | some rest =>
    let entries ← descend .header path (opening key) doc.entries
    return (⟨entries, path ++ [key]⟩, rest)
  | none => throw "the header is open"

/-- Read what stands on a line. -/
def readLine (doc : Document) (cs : List Char) : Except String (Document × List Char) :=
  match cs with
  | '[' :: '[' :: rest => readHeader doc openNext [']', ']'] rest
  | '[' :: rest => readHeader doc openTable [']'] rest
  | cs => do
    let (change, rest) ← readEntry (readValue maxDepth) cs
    return (⟨← descend .header doc.header change doc.entries, doc.header⟩, rest)

/-- Read the lines of a document; `budget` bounds their number. -/
def readLines : (budget : Nat) → Document → List Char → Except String Entries
  | 0, doc, _ => .ok doc.entries
  | budget + 1, doc, cs => do
    match ← skipGaps cs with
    | [] => return doc.entries
    | cs =>
      let (doc, rest) ← readLine doc cs
      readLines budget doc (← endLine rest)

/-- The entries of a document. A byte order mark in front of it does not count. -/
def parse (text : String) : Except String Entries :=
  let cs := match text.toList with
    | '\uFEFF' :: rest => rest
    | cs => cs
  readLines (cs.length + 1) ⟨[], []⟩ cs

end QueryLoom.Toml

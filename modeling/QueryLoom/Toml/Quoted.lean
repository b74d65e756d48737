import QueryLoom.Text.Trim

/-!
# TOML strings

A string stands between double quotes, with escapes, or between single quotes, without. Three quotes
instead of one allow line breaks; then up to two quotes may stand in front of the closing three.
-/

namespace QueryLoom.Toml

/-- The text after the line break at its start. -/
def afterBreak? : List Char → Option (List Char)
  | '\n' :: rest => some rest
  | '\r' :: '\n' :: rest => some rest
  | _ => none

/-- A blank within a line. -/
def isSpace (c : Char) : Bool := c == ' ' || c == '\t'

/-- A control character that may not stand in a line. -/
def isControl (c : Char) : Bool :=
  (c.toNat < 0x20 && c != '\t') || c.toNat == 0x7f

/-! ### Escapes -/

/-- The value of a hexadecimal digit. -/
def hexValue? (c : Char) : Option Nat :=
  if '0' ≤ c && c ≤ '9' then some (c.toNat - '0'.toNat)
  else if 'a' ≤ c && c ≤ 'f' then some (c.toNat - 'a'.toNat + 10)
  else if 'A' ≤ c && c ≤ 'F' then some (c.toNat - 'A'.toNat + 10)
  else none

/-- The character of a code point in hexadecimal digits. -/
def codePoint? (digits : List Char) : Option Char := do
  let values ← digits.mapM hexValue?
  let n := values.foldl (fun n v => n * 16 + v) 0
  if n.isValidChar then some (Char.ofNat n) else none

/-- The character of a one-letter escape. -/
def letterEscape? : Char → Option Char
  | 'b' => some '\x08'
  | 't' => some '\t'
  | 'n' => some '\n'
  | 'f' => some '\x0c'
  | 'r' => some '\r'
  | 'e' => some '\x1b'
  | '"' => some '"'
  | '\\' => some '\\'
  | _ => none

/-- The character of an escape after its backslash, and what follows. -/
def escape? : List Char → Option (Char × List Char)
  | 'x' :: rest => (codePoint? (rest.take 2)).bind fun c => keep 2 c rest
  | 'u' :: rest => (codePoint? (rest.take 4)).bind fun c => keep 4 c rest
  | 'U' :: rest => (codePoint? (rest.take 8)).bind fun c => keep 8 c rest
  | c :: rest => (letterEscape? c).map (·, rest)
  | [] => none
where
  /-- The character, if all its digits are there. -/
  keep (count : Nat) (c : Char) (rest : List Char) : Option (Char × List Char) :=
    if count ≤ rest.length then some (c, rest.drop count) else none

/-- What follows a backslash at the end of a line: the text from the next character on that is no
blank. -/
def continued? (cs : List Char) : Option (List Char) :=
  (afterBreak? (cs.dropWhile isSpace)).map fun rest =>
    rest.dropWhile fun c => isSpace c || c == '\n' || c == '\r'

/-! ### Strings -/

/-- The quotes in front of the closing three, and what follows those. -/
def closing? (quote : Char) (cs : List Char) : Option (List Char × List Char) :=
  let run := min (cs.takeWhile (· == quote)).length 5
  if run < 3 then none else some (List.replicate (run - 3) quote, cs.drop run)

/-- A string on one line after its opening quote; `budget` bounds its length. -/
def readLine? (quote : Char) : (budget : Nat) → List Char → Option (List Char × List Char)
  | 0, _ | _, [] => none
  | budget + 1, c :: rest =>
    if c == quote then some ([], rest)
    else if c == '\\' && quote == '"' then do
      let (c, rest) ← escape? rest
      let (text, rest) ← readLine? quote budget rest
      return (c :: text, rest)
    else if isControl c then none
    else (readLine? quote budget rest).map fun (text, rest) => (c :: text, rest)

/-- A string on several lines after its opening quotes; `budget` bounds its length. -/
def readLines? (quote : Char) : (budget : Nat) → List Char → Option (List Char × List Char)
  | 0, _ | _, [] => none
  | budget + 1, c :: rest =>
    match closing? quote (c :: rest), afterBreak? (c :: rest) with
    | some found, _ => some found
    | none, some rest => (readLines? quote budget rest).map fun (text, rest) => ('\n' :: text, rest)
    | none, none =>
      if c == '\\' && quote == '"' then
        match continued? rest with
        | some rest => readLines? quote budget rest
        | none => do
          let (c, rest) ← escape? rest
          let (text, rest) ← readLines? quote budget rest
          return (c :: text, rest)
      else if isControl c then none
      else (readLines? quote budget rest).map fun (text, rest) => (c :: text, rest)

/-- A string on one line, from its opening quote on. -/
def readKeyText? : List Char → Option (List Char × List Char)
  | c :: rest => if c == '"' || c == '\'' then readLine? c rest.length rest else none
  | [] => none

/-- A string, from its opening quotes on. -/
def readText? (cs : List Char) : Option (List Char × List Char) :=
  match cs with
  | c :: d :: e :: rest =>
    if c == d && d == e then
      readLines? c rest.length ((afterBreak? rest).getD rest)
    else readKeyText? cs
  | cs => readKeyText? cs

end QueryLoom.Toml

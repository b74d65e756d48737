import QueryLoom.Json.Value
import QueryLoom.Text.CharClass

/-!
# Reading values

A reader takes the remaining text and returns a value with what follows it. A number without
fraction and exponent that fits 64 bits, signed or unsigned, is an integer; every other one is a
double, and so is minus zero.
-/

namespace QueryLoom.Json

/-! ### Numbers -/

/-- The largest significand that is kept; digits beyond it only count for the exponent. -/
def maxSignificand : Nat := Nat.pow 2 64 - 1

/-- Append digits to a significand until one does not fit; return the digits left over. -/
def accumulate (significand : Nat) : List Char → Nat × List Char
  | [] => (significand, [])
  | c :: cs =>
    let next := significand * 10 + (c.toNat - '0'.toNat)
    if next ≤ maxSignificand then accumulate next cs else (significand, c :: cs)

/-- `f · 10 ^ exponent` in at most `budget` steps of the largest power of ten that is a double.
Too large values are refused. -/
def scaled (f : Float) (exponent : Int) : (budget : Nat) → Option Float
  | 0 => some 0
  | budget + 1 =>
    if exponent.natAbs ≤ 308 then
      let power := Float.ofScientific 1 false exponent.natAbs
      if exponent ≥ 0 then
        if Float.isInf (f * power) then none else some (f * power)
      else some (f / power)
    else if f == 0 then some f
    else if exponent ≥ 0 then none
    else scaled (f / 1e308) (exponent + 308) budget

/-- The double of a sign, a significand and a decimal exponent. -/
def floatOfParts (negative : Bool) (significand : Nat) (exponent : Int) : Option Float :=
  (scaled (Float.ofNat significand) exponent 4).map fun f => if negative then -f else f

/-- The digits at the start of a text, and the rest. -/
def spanDigits (cs : List Char) : List Char × List Char :=
  (cs.takeWhile Text.isAsciiDigit, cs.dropWhile Text.isAsciiDigit)

/-- The value of a digit sequence. -/
def digitsValue (digits : List Char) : Nat :=
  digits.foldl (fun n c => n * 10 + (c.toNat - '0'.toNat)) 0

/-- The exponent after its letter, with its sign. -/
def readExponent? (cs : List Char) : Option (Int × List Char) :=
  let (negative, cs) :=
    match cs with
    | '+' :: rest => (false, rest)
    | '-' :: rest => (true, rest)
    | cs => (false, cs)
  let (digits, rest) := spanDigits cs
  if digits.isEmpty then none
  else
    let n := digitsValue digits
    some (if negative then -(n : Int) else (n : Int), rest)

/-- What may follow the fraction: an exponent that adds to `exponent`. -/
def readScale? (negative : Bool) (significand : Nat) (exponent : Int) (cs : List Char) :
    Option (Float × List Char) :=
  match cs with
  | 'e' :: rest | 'E' :: rest => do
    let (e, rest) ← readExponent? rest
    let f ← floatOfParts negative significand (exponent + e)
    return (f, rest)
  | cs => (floatOfParts negative significand exponent).map (·, cs)

/-- A number without its sign. -/
def readUnsigned? (negative : Bool) (cs : List Char) : Option (Json × List Char) :=
  let (digits, rest) := spanDigits cs
  if digits.isEmpty || (digits.length > 1 && digits.head? == some '0') then none
  else
    let (significand, dropped) := accumulate 0 digits
    match rest with
    | '.' :: rest =>
      let (fraction, rest) := spanDigits rest
      if fraction.isEmpty then none
      else
        let (significand, ignored) := accumulate significand fraction
        let exponent := (dropped.length : Int) - ((fraction.length - ignored.length : Nat) : Int)
        (readScale? negative significand exponent rest).map fun (f, rest) => (.float f, rest)
    | 'e' :: _ | 'E' :: _ =>
      (readScale? negative significand dropped.length rest).map fun (f, rest) => (.float f, rest)
    | rest =>
      if dropped.isEmpty && !negative then some (.int significand, rest)
      else if dropped.isEmpty && 0 < significand && significand ≤ Nat.pow 2 63 then
        some (.int (-(significand : Int)), rest)
      else (floatOfParts negative significand dropped.length).map fun f => (.float f, rest)

/-- A number. -/
def readNumber? (cs : List Char) : Option (Json × List Char) :=
  match cs with
  | '-' :: rest => readUnsigned? true rest
  | cs => readUnsigned? false cs

/-! ### Strings -/

/-- The value of a hexadecimal digit. -/
def hexValue? (c : Char) : Option Nat :=
  if '0' ≤ c && c ≤ '9' then some (c.toNat - '0'.toNat)
  else if 'a' ≤ c && c ≤ 'f' then some (c.toNat - 'a'.toNat + 10)
  else if 'A' ≤ c && c ≤ 'F' then some (c.toNat - 'A'.toNat + 10)
  else none

/-- The value of four hexadecimal digits. -/
def hexUnit? (a b c d : Char) : Option Nat := do
  return (((← hexValue? a) * 16 + (← hexValue? b)) * 16 + (← hexValue? c)) * 16 + (← hexValue? d)

/-- The character of a one-letter escape. -/
def simpleEscape? (c : Char) : Option Char :=
  match c with
  | '"' => some '"'
  | '\\' => some '\\'
  | '/' => some '/'
  | 'b' => some '\x08'
  | 'f' => some '\x0c'
  | 'n' => some '\n'
  | 'r' => some '\r'
  | 't' => some '\t'
  | _ => none

/-- The characters of a string after its opening quote, and what follows the closing one. -/
def readString? : List Char → Option (List Char × List Char)
  | [] => none
  | '"' :: rest => some ([], rest)
  | '\\' :: 'u' :: a :: b :: c :: d :: rest => do
    let unit ← hexUnit? a b c d
    if 0xd800 ≤ unit && unit < 0xdc00 then
      match rest with
      | '\\' :: 'u' :: e :: f :: g :: h :: rest =>
        let low ← hexUnit? e f g h
        if 0xdc00 ≤ low && low < 0xe000 then
          let (cs, rest) ← readString? rest
          return (Char.ofNat (0x10000 + (unit - 0xd800) * 0x400 + (low - 0xdc00)) :: cs, rest)
        else none
      | _ => none
    else if 0xdc00 ≤ unit && unit < 0xe000 then none
    else
      let (cs, rest) ← readString? rest
      return (Char.ofNat unit :: cs, rest)
  | '\\' :: e :: rest => do
    let c ← simpleEscape? e
    let (cs, rest) ← readString? rest
    return (c :: cs, rest)
  | c :: rest =>
    if c.toNat < 0x20 || c == '\\' then none
    else do
      let (cs, rest) ← readString? rest
      return (c :: cs, rest)

/-! ### Values -/

/-- White space between the tokens of a JSON text. -/
def skipSpace (cs : List Char) : List Char :=
  cs.dropWhile fun c => c == ' ' || c == '\n' || c == '\r' || c == '\t'

mutual

/-- A value at the start of the text; `budget` bounds the number of characters it may take. -/
def readValue? : (budget : Nat) → List Char → Option (Json × List Char)
  | 0, _ => none
  | budget + 1, cs =>
    match skipSpace cs with
    | 'n' :: 'u' :: 'l' :: 'l' :: rest => some (.null, rest)
    | 't' :: 'r' :: 'u' :: 'e' :: rest => some (.bool true, rest)
    | 'f' :: 'a' :: 'l' :: 's' :: 'e' :: rest => some (.bool false, rest)
    | '"' :: rest => (readString? rest).map fun (s, rest) => (.string (String.ofList s), rest)
    | '[' :: rest =>
      match skipSpace rest with
      | ']' :: rest => some (.array [], rest)
      | rest => (readItems? budget rest).map fun (items, rest) => (.array items, rest)
    | '\x7b' :: rest =>
      match skipSpace rest with
      | '\x7d' :: rest => some (.object [], rest)
      | rest => (readEntries? budget rest).map fun (entries, rest) => (.ofEntries entries, rest)
    | rest => readNumber? rest

/-- The items of an array up to its closing bracket. -/
def readItems? : (budget : Nat) → List Char → Option (List Json × List Char)
  | 0, _ => none
  | budget + 1, cs => do
    let (item, rest) ← readValue? budget cs
    match skipSpace rest with
    | ',' :: rest =>
      let (items, rest) ← readItems? budget rest
      return (item :: items, rest)
    | ']' :: rest => return ([item], rest)
    | _ => none

/-- The entries of an object up to its closing brace. -/
def readEntries? : (budget : Nat) → List Char → Option (List (String × Json) × List Char)
  | 0, _ => none
  | budget + 1, cs =>
    match skipSpace cs with
    | '"' :: rest => do
      let (key, rest) ← readString? rest
      match skipSpace rest with
      | ':' :: rest =>
        let (value, rest) ← readValue? budget rest
        match skipSpace rest with
        | ',' :: rest =>
          let (entries, rest) ← readEntries? budget rest
          return ((String.ofList key, value) :: entries, rest)
        | '\x7d' :: rest => return ([(String.ofList key, value)], rest)
        | _ => none
      | _ => none
    | _ => none

end

/-- The value of a whole JSON text. -/
def parse? (text : String) : Option Json :=
  let cs := text.toList
  match readValue? (cs.length + 1) cs with
  | some (value, rest) => if (skipSpace rest).isEmpty then some value else none
  | none => none

end QueryLoom.Json

import QueryLoom.Decimal.Reader
import QueryLoom.Toml.Quoted
import QueryLoom.Toml.Value

/-!
# TOML numbers, dates and truth values

A value without quotes and brackets is known by its whole text. Underscores may stand between
digits, and integers may be hexadecimal, octal or binary.
-/

namespace QueryLoom.Toml

/-! ### Integers -/

/-- The sign in front of a text, and the text without it. -/
def splitSign : List Char → Option Bool × List Char
  | '+' :: rest => (some false, rest)
  | '-' :: rest => (some true, rest)
  | cs => (none, cs)

/-- The digits of a text that may have underscores between them. -/
def digits? (isDigit : Char → Bool) (cs : List Char) : Option (List Char) :=
  let groups := cs.splitOn '_'
  if groups.all fun g => !g.isEmpty && g.all isDigit then some groups.flatten else none

/-- The digits of a decimal number, which begin with a zero only if that is all. -/
def decimalDigits? (cs : List Char) : Option (List Char) :=
  (digits? Text.isAsciiDigit cs).filter fun ds => ds.length == 1 || ds.head? != some '0'

/-- The value of digits in a base. -/
def valueIn (base : Nat) (digits : List Char) : Nat :=
  (digits.filterMap hexValue?).foldl (fun n v => n * base + v) 0

/-- Whether a character is a digit in a base up to sixteen. -/
def isDigitIn (base : Nat) (c : Char) : Bool :=
  (hexValue? c).any (· < base)

/-- An integer in a base, without a sign. -/
def basedInteger? (base : Nat) (cs : List Char) : Option Int :=
  (digits? (isDigitIn base) cs).map fun ds => (valueIn base ds : Int)

/-- An integer. -/
def integer? (cs : List Char) : Option Int :=
  match cs with
  | '0' :: 'x' :: rest => basedInteger? 16 rest
  | '0' :: 'o' :: rest => basedInteger? 8 rest
  | '0' :: 'b' :: rest => basedInteger? 2 rest
  | cs =>
    let (sign?, rest) := splitSign cs
    (decimalDigits? rest).map fun ds =>
      let n : Int := valueIn 10 ds
      if sign? == some true then -n else n

/-- Whether an integer has at most 128 bits. -/
def isBounded (n : Int) : Bool := -(Nat.pow 2 127 : Int) ≤ n && n < (Nat.pow 2 128 : Int)

/-! ### Floats -/

/-- The text of an exponent after its letter, without underscores. -/
def exponentText? (cs : List Char) : Option (List Char) :=
  let (_, rest) := splitSign cs
  (digits? Text.isAsciiDigit rest).map fun ds => cs.take (cs.length - rest.length) ++ ds

/-- The text of a fraction, with an exponent behind it, without underscores. -/
def fractionText? (cs : List Char) : Option (List Char) := do
  let fraction := cs.takeWhile fun c => c != 'e' && c != 'E'
  let ds ← digits? Text.isAsciiDigit fraction
  match cs.drop fraction.length with
  | [] => return ds
  | e :: rest => return ds ++ e :: (← exponentText? rest)

/-- The text of a number with a fraction or an exponent, without sign and underscores. -/
def floatText? (cs : List Char) : Option (List Char) := do
  let whole := cs.takeWhile fun c => c != '.' && c != 'e' && c != 'E'
  let ds ← decimalDigits? whole
  match cs.drop whole.length with
  | '.' :: rest => return ds ++ '.' :: (← fractionText? rest)
  | e :: rest => return ds ++ e :: (← exponentText? rest)
  | [] => none

/-- A float; one that no double is near is refused. -/
def float? (cs : List Char) : Option Float := do
  let (sign?, rest) := splitSign cs
  let f ← match String.ofList rest with
    | "inf" => some (1.0 / 0.0)
    | "nan" => some (0.0 / 0.0)
    | _ => ((floatText? rest).bind Decimal.readFloat?).filter fun f => !f.isInf
  return if sign? == some true then -f else f

/-! ### Dates and times -/

/-- The number of exactly `count` digits at the start, if it is in a range, and what follows. -/
def field? (count low high : Nat) (cs : List Char) : Option (Nat × List Char) :=
  let ds := cs.take count
  let n := valueIn 10 ds
  if ds.length == count && ds.all Text.isAsciiDigit && low ≤ n && n ≤ high then
    some (n, cs.drop count)
  else none

/-- What follows a character. -/
def after? (c : Char) (cs : List Char) : Option (List Char) := Text.stripLead? [c] cs

/-- The number of days of a month. -/
def daysOf (year month : Nat) : Nat :=
  if month == 2 then
    if year % 4 == 0 && (year % 100 != 0 || year % 400 == 0) then 29 else 28
  else if month == 4 || month == 6 || month == 9 || month == 11 then 30
  else 31

/-- What follows a date. -/
def afterDate? (cs : List Char) : Option (List Char) := do
  let (year, cs) ← field? 4 0 9999 cs
  let (month, cs) ← field? 2 1 12 (← after? '-' cs)
  let (_, cs) ← field? 2 1 (daysOf year month) (← after? '-' cs)
  return cs

/-- What follows the fraction of a second. -/
def afterFraction? : List Char → Option (List Char)
  | '.' :: rest =>
    if (rest.head?.any Text.isAsciiDigit) then some (rest.dropWhile Text.isAsciiDigit) else none
  | cs => some cs

/-- What follows a time of day; its seconds may be missing. -/
def afterTime? (cs : List Char) : Option (List Char) := do
  let (_, cs) ← field? 2 0 23 cs
  let (_, cs) ← field? 2 0 59 (← after? ':' cs)
  match cs with
  | ':' :: rest =>
    let (_, cs) ← field? 2 0 60 rest
    afterFraction? cs
  | cs => return cs

/-- What follows an offset from universal time; there may be none. -/
def afterOffset? (cs : List Char) : Option (List Char) :=
  match cs with
  | 'Z' :: rest | 'z' :: rest => some rest
  | '+' :: rest | '-' :: rest => do
    let (_, cs) ← field? 2 0 23 rest
    let (_, cs) ← field? 2 0 59 (← after? ':' cs)
    return cs
  | cs => some cs

/-- Whether a text is a date, a time of day, or both. -/
def isDateTime (cs : List Char) : Bool :=
  match afterDate? cs with
  | some [] => true
  | some (c :: rest) =>
    (c == 'T' || c == 't' || c == ' ') &&
      ((afterTime? rest).bind afterOffset?).any List.isEmpty
  | none => (afterTime? cs).any List.isEmpty

/-! ### Scalars -/

/-- A character that ends a value without quotes and brackets. -/
def endsScalar (c : Char) : Bool :=
  isSpace c || c == '\n' || c == '\r' || "#,=[]\x7b\x7d\"'".toList.contains c

/-- The text of a value without quotes and brackets, and what follows. A blank may stand between a
date and a time. -/
def takeScalar (cs : List Char) : List Char × List Char :=
  let run := cs.takeWhile (!endsScalar ·)
  let rest := cs.drop run.length
  match afterDate? run, rest with
  | some [], ' ' :: time =>
    if time.head?.any Text.isAsciiDigit then
      let time := time.takeWhile (!endsScalar ·)
      (run ++ ' ' :: time, rest.drop (time.length + 1))
    else (run, rest)
  | _, _ => (run, rest)

/-- The value of a text without quotes and brackets. -/
def scalar? (cs : List Char) : Option Value :=
  match String.ofList cs with
  | "true" => some (.boolean true)
  | "false" => some (.boolean false)
  | text =>
    match integer? cs with
    | some n => if isBounded n then some (.integer n) else none
    | none =>
      match float? cs with
      | some f => some (.float f)
      | none => if isDateTime cs then some (.dateTime text) else none

end QueryLoom.Toml

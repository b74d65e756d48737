import QueryLoom.Decimal.Natural

/-!
# Decimal numbers in text

The notation of doubles: digits with an optional point and exponent, or a name for a value that is
no number. The double nearest to the decimal is taken.
-/

namespace QueryLoom.Decimal

/-- The double nearest to `n · 10 ^ exponent`, where `n` has `count` digits. -/
def nearestFloat (n : Nat) (count : Nat) (exponent : Int) : Float :=
  if n = 0 then 0
  else if (count : Int) + exponent > 400 then 1.0 / 0.0
  else if (count : Int) + exponent < -400 then 0
  else if exponent ≥ 0 then Float.ofScientific n false exponent.toNat
  else Float.ofScientific n true (-exponent).toNat

/-- The exponent after its letter, which must be the whole text. -/
def readExponent? (cs : List Char) : Option Int :=
  let (negative, digits) := match cs with
    | '-' :: rest => (true, rest)
    | '+' :: rest => (false, rest)
    | cs => (false, cs)
  if digits.isEmpty || !digits.all Text.isAsciiDigit then none
  else
    let n : Int := valueOfDigits digits
    some (if negative then -n else n)

/-- A decimal without its sign. -/
def readUnsignedDecimal? (cs : List Char) : Option Float := do
  let whole := cs.takeWhile Text.isAsciiDigit
  let rest := cs.dropWhile Text.isAsciiDigit
  let (fraction, rest) := match rest with
    | '.' :: rest => (rest.takeWhile Text.isAsciiDigit, rest.dropWhile Text.isAsciiDigit)
    | rest => ([], rest)
  let digits := whole ++ fraction
  if digits.isEmpty then none
  let exponent ← match rest with
    | [] => some 0
    | 'e' :: rest | 'E' :: rest => readExponent? rest
    | _ => none
  return nearestFloat (valueOfDigits digits) (digits.dropWhile (· == '0')).length
    (exponent - (fraction.length : Int))

/-- A number or a named value without its sign. -/
def readUnsigned? (cs : List Char) : Option Float :=
  match String.ofList (cs.map Char.toLower) with
  | "inf" | "infinity" => some (1.0 / 0.0)
  | "nan" => some (0.0 / 0.0)
  | _ => readUnsignedDecimal? cs

/-- The double written as the whole of `cs`. -/
def readFloat? (cs : List Char) : Option Float :=
  match cs with
  | '-' :: rest => (readUnsigned? rest).map fun f => -f
  | '+' :: rest => readUnsigned? rest
  | cs => readUnsigned? cs

end QueryLoom.Decimal

import QueryLoom.Text.CharClass

/-!
# Natural numbers in text

The decimal notation of a 64-bit index: ASCII digits, after an optional plus sign.
-/

namespace QueryLoom.Decimal

/-- The value of a digit sequence. -/
def valueOfDigits (digits : List Char) : Nat :=
  digits.foldl (fun n c => n * 10 + (c.toNat - '0'.toNat)) 0

/-- The index written as `cs`, if it fits 64 bits. -/
def readIndex? (cs : List Char) : Option Nat :=
  let digits := match cs with
    | '+' :: rest => rest
    | cs => cs
  if digits.isEmpty || !digits.all Text.isAsciiDigit then none
  else
    let n := valueOfDigits digits
    if n < Nat.pow 2 64 then some n else none

end QueryLoom.Decimal

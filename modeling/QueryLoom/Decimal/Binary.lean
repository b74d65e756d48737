/-!
# Doubles as integers times powers of two

A finite double is exactly `m · 2 ^ q`. What must be exact is computed on `m` and `q`: whether a
double is a whole number, and the remainder of a division.
-/

namespace QueryLoom.Decimal

/-! ### Decoding -/

/-- The magnitude `mantissa · 2 ^ exponent` of a finite double. -/
structure Binary where
  mantissa : Nat
  exponent : Int
  /-- The next smaller double is only half as far away as the next larger one. -/
  closeBelow : Bool

/-- Whether the sign bit is set. -/
def isNegative (f : Float) : Bool :=
  f.toBits.toNat ≥ Nat.pow 2 63

/-- The magnitude of a finite double, read from its bits. -/
def Binary.ofFloat (f : Float) : Binary :=
  let bits : Nat := f.toBits.toNat % Nat.pow 2 63
  let fraction : Nat := bits % Nat.pow 2 52
  let biased : Nat := bits / Nat.pow 2 52
  if biased = 0 then ⟨fraction, -1074, false⟩
  else ⟨fraction + Nat.pow 2 52, (biased : Int) - 1075, fraction = 0 && biased > 1⟩

/-- Whether the double is neither infinite nor undefined. -/
def isFinite (f : Float) : Bool :=
  f.toBits.toNat / Nat.pow 2 52 % Nat.pow 2 11 ≠ 2047

/-! ### Encoding -/

/-- The double with magnitude `m · 2 ^ q`, for magnitudes that are doubles. -/
def Binary.toFloat (negative : Bool) (m : Nat) (q : Int) : Float :=
  let sign : Nat := if negative then Nat.pow 2 63 else 0
  if m = 0 then Float.ofBits (UInt64.ofNat sign)
  else
    -- bring the mantissa to 53 bits, or to the smallest exponent
    let wanted : Int := max (q + (Nat.log2 m : Int) - 52) (-1074)
    let m := if q ≥ wanted then m * Nat.pow 2 (q - wanted).toNat
      else m / Nat.pow 2 (wanted - q).toNat
    let hidden := Nat.pow 2 52
    let bits := if m < hidden then m else (wanted + 1075).toNat * hidden + (m - hidden)
    Float.ofBits (UInt64.ofNat (sign + bits))

/-! ### Exact operations -/

/-- The integer a double is, if it is one. -/
def wholeNumber? (f : Float) : Option Int :=
  if !isFinite f then none
  else
    let b := Binary.ofFloat f
    let up := Nat.pow 2 b.exponent.toNat
    let down := Nat.pow 2 (-b.exponent).toNat
    if b.mantissa % down = 0 then
      let n : Int := (b.mantissa / down * up : Nat)
      some (if isNegative f then -n else n)
    else none

/-- The remainder of a division that is rounded towards zero; it has the sign of the dividend. -/
def remainder (x y : Float) : Float :=
  if !isFinite x || Float.isNaN y || y == 0 then 0.0 / 0.0
  else if !isFinite y then x
  else
    let a := Binary.ofFloat x
    let b := Binary.ofFloat y
    let q := min a.exponent b.exponent
    let m := a.mantissa * Nat.pow 2 (a.exponent - q).toNat
    let n := b.mantissa * Nat.pow 2 (b.exponent - q).toNat
    Binary.toFloat (isNegative x) (m % n) q

end QueryLoom.Decimal

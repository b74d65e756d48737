import QueryLoom.Decimal.Binary

/-!
# The shortest decimal of a floating-point number

A finite double is `m · 2 ^ q`. The decimals that read back as it form an interval around that
value, whose ends count when `m` is even. Among the decimals of the interval with the fewest
digits the nearest to the value is taken, and of two equally near ones the even one.

All arithmetic is exact: values are quotients of natural numbers.
-/

namespace QueryLoom.Decimal

/-! ### Decimals -/

/-- The decimal `0.d₁d₂… · 10 ^ (point)` given by its digits. -/
structure Digits where
  digits : List Char
  point : Int

/-- The interval of a double over a common denominator: four times the value and its two ends. -/
structure Interval where
  low : Nat
  value : Nat
  high : Nat
  denominator : Nat
  closed : Bool

/-- The numbers that read back as a given double. -/
def Binary.interval (b : Binary) : Interval :=
  let up := Nat.pow 2 b.exponent.toNat
  let value := 4 * b.mantissa * up
  ⟨value - (if b.closeBelow then up else 2 * up), value, value + 2 * up,
    4 * Nat.pow 2 (-b.exponent).toNat, b.mantissa % 2 = 0⟩

/-- Whether `n · 10 ^ scale` is in the interval. -/
def Interval.contains (i : Interval) (n : Nat) (scale : Int) : Bool :=
  let x := n * Nat.pow 10 scale.toNat * i.denominator
  let down := Nat.pow 10 (-scale).toNat
  if i.closed then i.low * down ≤ x && x ≤ i.high * down
  else i.low * down < x && x < i.high * down

/-- The point of the grid of step `10 ^ scale` just below the value, or on it. -/
def Interval.floorAt (i : Interval) (scale : Int) : Nat :=
  i.value * Nat.pow 10 (-scale).toNat / (i.denominator * Nat.pow 10 scale.toNat)

/-- Whether `n` is nearer to the value than `n + 1` on the grid of step `10 ^ scale`, or equally
near and even. -/
def Interval.prefersLower (i : Interval) (n : Nat) (scale : Int) : Bool :=
  let value := 2 * i.value * Nat.pow 10 (-scale).toNat
  let middle := (2 * n + 1) * Nat.pow 10 scale.toNat * i.denominator
  value < middle || (value = middle && n % 2 = 0)

/-- The point of the grid that reads back as the double and is nearest to it, if there is one. -/
def Interval.pointAt? (i : Interval) (scale : Int) : Option Nat :=
  let n := i.floorAt scale
  match i.contains n scale, i.contains (n + 1) scale with
  | true, true => some (if i.prefersLower n scale then n else n + 1)
  | true, false => some n
  | false, true => some (n + 1)
  | false, false => none

/-- The least `k ≥ from` with `value · 10 ^ k ≥ 1`, looked for among the next `budget` numbers. -/
def Interval.leadingScale (i : Interval) (start : Nat) : (budget : Nat) → Nat
  | 0 => start
  | budget + 1 =>
    if i.denominator ≤ i.value * Nat.pow 10 start then start
    else i.leadingScale (start + 1) budget

/-- The exponent of the leading digit of the value. -/
def Interval.leadingExponent (i : Interval) : Int :=
  if i.denominator ≤ i.value then ((Nat.toDigits 10 (i.value / i.denominator)).length : Int) - 1
  else -(i.leadingScale 1 400 : Int)

/-- Try grids with more and more digits, the coarsest first. -/
def Interval.shortest (i : Interval) (leading : Int) (count : Nat) : (budget : Nat) → Nat × Int
  | 0 => (i.floorAt (leading - 16), leading - 16)
  | budget + 1 =>
    let scale := leading - (count : Int)
    match i.pointAt? scale with
    | some n => (n, scale)
    | none => i.shortest leading (count + 1) budget

/-- Drop the zeros at the end of a digit sequence. -/
def dropTrailingZeros (digits : List Char) : List Char :=
  (digits.reverse.dropWhile (· == '0')).reverse

/-- The digits of the shortest decimal that reads back as a finite double; zero has none. -/
def shortest (f : Float) : Digits :=
  let b := Binary.ofFloat f
  if b.mantissa = 0 then ⟨[], 0⟩
  else
    let i := b.interval
    let (n, scale) := i.shortest i.leadingExponent 0 17
    let digits := Nat.toDigits 10 n
    ⟨dropTrailingZeros digits, (digits.length : Int) + scale⟩

/-! ### Layout -/

/-- How a number is written: positionally while its leading exponent lies in
`positionalFrom ≤ e < exponentFrom`, and whether a positive exponent carries its sign. -/
structure Layout where
  positionalFrom : Int
  exponentFrom : Int
  exponentPlus : Bool

/-- The digits before and after the point, at least one on each side. -/
def Digits.positional (d : Digits) : List Char :=
  if d.point ≤ 0 then
    "0.".toList ++ List.replicate (-d.point).toNat '0' ++ (if d.digits.isEmpty then ['0'] else d.digits)
  else
    let whole := d.digits.take d.point.toNat
    let rest := d.digits.drop d.point.toNat
    whole ++ List.replicate (d.point.toNat - whole.length) '0' ++ ['.'] ++
      (if rest.isEmpty then ['0'] else rest)

/-- One digit before the point, the others after it, then the exponent. -/
def Digits.scientific (d : Digits) (exponentPlus : Bool) : List Char :=
  let exponent := d.point - 1
  let sign := if exponent < 0 then ['-'] else if exponentPlus then ['+'] else []
  let mantissa :=
    match d.digits with
    | [] => ['0']
    | [c] => [c]
    | c :: rest => c :: '.' :: rest
  mantissa ++ ['e'] ++ sign ++ Nat.toDigits 10 exponent.natAbs

/-- The text of a finite double in a layout. -/
def Layout.render (layout : Layout) (f : Float) : String :=
  let d := shortest f
  let leading := d.point - 1
  let body :=
    if d.digits.isEmpty ||
        (layout.positionalFrom ≤ leading && leading < layout.exponentFrom) then
      d.positional
    else d.scientific layout.exponentPlus
  String.ofList (if isNegative f then '-' :: body else body)

end QueryLoom.Decimal

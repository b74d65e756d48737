/-!
# Spans of code points

Character classes are tables of spans: a first and a last code point and the step between the
members. Alternating blocks (a capital followed by its small letter) are spans of step two.
-/

namespace QueryLoom.Text

/-- The code points `first`, `first + step`, … up to `last`. -/
structure Span where
  first : Nat
  last : Nat
  step : Nat

/-- Whether a code point is a member of the span. -/
def Span.contains (s : Span) (n : Nat) : Bool :=
  s.first ≤ n && n ≤ s.last && (n - s.first) % s.step == 0

/-- Whether some span of a table holds the character. -/
def covers (table : List Span) (c : Char) : Bool :=
  table.any (·.contains c.toNat)

/-- The members of `span` are moved by `shift` code points. -/
structure Shift where
  span : Span
  shift : Int

/-- Move a character by the first row of the table that holds it; other characters stay. -/
def move (table : List Shift) (c : Char) : Char :=
  match table.find? (·.span.contains c.toNat) with
  | some row => Char.ofNat (Int.toNat (c.toNat + row.shift))
  | none => c

end QueryLoom.Text

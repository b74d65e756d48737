import QueryLoom.Condition.Token
import QueryLoom.Json.Printer

/-!
# Conditions

A condition is an expression over the values of a bag. Every value can be tested: null, false, zero
and the empty string count as false.
-/

namespace QueryLoom.Condition

/-- An expression. -/
inductive Expr where
  | literal (value : Json)
  | path (p : String)
  | not (e : Expr)
  | neg (e : Expr)
  | and (left right : Expr)
  | or (left right : Expr)
  | binary (operator : Operator) (left right : Expr)

/-- A literal as messages show it. -/
def shownValue : Json → String
  | .null => "Null"
  | .bool b => if b then "Bool(true)" else "Bool(false)"
  | .int n => s!"Number({n})"
  | .float f => s!"Number({Json.floatText f})"
  | .string s => s!"String({Text.shown s})"
  | value => value.compact

/-- An expression as messages show it. -/
def Expr.shown : Expr → String
  | .literal value => s!"Literal({shownValue value})"
  | .path p => s!"Path({Text.shown p})"
  | .not e => s!"Not({e.shown})"
  | .neg e => s!"Neg({e.shown})"
  | .and left right => s!"And({left.shown}, {right.shown})"
  | .or left right => s!"Or({left.shown}, {right.shown})"
  | .binary operator left right => s!"Binary({operator.name}, {left.shown}, {right.shown})"

/-- A number as a value: whole numbers below nine thousand million million are integers, and what
is no number is null. -/
def numberValue (f : Float) : Json :=
  match Decimal.wholeNumber? f with
  | some n => if n.natAbs < 9000000000000000 then .int n else .float f
  | none => if Decimal.isFinite f then .float f else .null

end QueryLoom.Condition

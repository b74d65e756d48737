import QueryLoom.Condition.Expr
import QueryLoom.Text.Trim

/-!
# Values of conditions

Operators convert their operands: numbers may be written as strings, null counts as zero, and a sum
with a string joins texts. Equality is loose in the same way, except that null equals only null.
-/

namespace QueryLoom.Condition

/-! ### Conversions -/

/-- The double nearest to an integer. -/
def floatOfInt (n : Int) : Float := Float.ofInt n

/-- The number a value stands for. -/
def toNumber? : Json → Option Float
  | .null => some 0
  | .bool b => some (if b then 1 else 0)
  | .int n => some (floatOfInt n)
  | .float f => some f
  | .string s =>
    let cs := Text.trim s.toList
    if cs.isEmpty then some 0 else Decimal.readFloat? cs
  | .array _ | .object _ => none

/-- The text a value stands for. -/
def toText : Json → String
  | .string s => s
  | value => value.compact

/-- Whether a value counts as true. -/
def isTrue : Json → Bool
  | .null => false
  | .bool b => b
  | .int n => n != 0
  | .float f => f != 0 && !f.isNaN
  | .string s => !s.isEmpty
  | .array _ | .object _ => true

/-! ### Operators -/

/-- Equality after conversion. Arrays and objects equal only their like. -/
def looselyEqual (a b : Json) : Bool :=
  match a, b with
  | .null, .null => true
  | .null, _ | _, .null => false
  | .string x, .string y => x == y
  | .array _, _ | .object _, _ | _, .array _ | _, .object _ => a == b
  | a, b =>
    match toNumber? a, toNumber? b with
    | some x, some y => x == y
    | _, _ => false

/-- The truth of a comparison of two ordered things. -/
def Operator.compares {α : Type} [LT α] [DecidableRel (α := α) (· < ·)] [BEq α]
    (operator : Operator) (x y : α) : Bool :=
  match operator with
  | .lt => x < y
  | .le => x < y || x == y
  | .gt => y < x
  | _ => y < x || x == y

/-- Two strings are compared as texts, other values as numbers; values without a number are in no
order. -/
def ordered (operator : Operator) (a b : Json) : Bool :=
  match a, b with
  | .string x, .string y => operator.compares x y
  | a, b =>
    match toNumber? a, toNumber? b with
    | some x, some y => operator.compares x y
    | _, _ => false

/-- The numbers of two operands. -/
def numbers (a b : Json) : Except ConditionFault (Float × Float) :=
  match toNumber? a, toNumber? b with
  | some x, some y => .ok (x, y)
  | _, _ => .error .notANumber

/-- Whether a value is a string. -/
def isString : Json → Bool
  | .string _ => true
  | _ => false

/-- A division, exact or with remainder; the divisor is looked at first. -/
def divided (f : Float → Float → Float) (a b : Json) : Except ConditionFault Json :=
  match toNumber? b with
  | none => .error .notANumber
  | some y =>
    if y == 0 then .error .divisionByZero
    else
      match toNumber? a with
      | none => .error .notANumber
      | some x => .ok (numberValue (f x y))

/-- The value of a binary operator. -/
def Operator.apply (operator : Operator) (a b : Json) : Except ConditionFault Json :=
  match operator with
  | .eq => .ok (.bool (looselyEqual a b))
  | .ne => .ok (.bool (!looselyEqual a b))
  | .lt | .le | .gt | .ge => .ok (.bool (ordered operator a b))
  | .add =>
    if isString a || isString b then .ok (.string (toText a ++ toText b))
    else (numbers a b).map fun (x, y) => numberValue (x + y)
  | .sub => (numbers a b).map fun (x, y) => numberValue (x - y)
  | .mul => (numbers a b).map fun (x, y) => numberValue (x * y)
  | .div => divided (· / ·) a b
  | .rem => divided Decimal.remainder a b

/-! ### Evaluation -/

/-- The number of items, characters or entries of a value. -/
def lengthOf : Json → Json
  | .array items => .int items.length
  | .string s => .int s.length
  | .object entries => .int entries.length
  | _ => .null

/-- The value of a path. A path that leads nowhere is null, unless it asks for the length of what
its beginning leads to. -/
def valueOfPath (lookup : String → Option Json) (path : String) : Json :=
  match lookup path with
  | some value => value
  | none =>
    match Text.stripLead? ".length".toList.reverse path.toList.reverse with
    | some start =>
      match lookup (String.ofList start.reverse) with
      | some value => lengthOf value
      | none => .null
    | none => .null

/-- The value of an expression; `lookup` finds the values of paths. -/
def Expr.eval (lookup : String → Option Json) : Expr → SqlResult Json
  | .literal value => .ok value
  | .path p => .ok (valueOfPath lookup p)
  | .not e => do
    let value ← e.eval lookup
    return .bool (!isTrue value)
  | .neg e => do
    let value ← e.eval lookup
    match toNumber? value with
    | some f => return numberValue (-f)
    | none => throw (.condition (Expr.neg e).shown .notANumber)
  | .and left right => do
    let value ← left.eval lookup
    if isTrue value then right.eval lookup else return value
  | .or left right => do
    let value ← left.eval lookup
    if isTrue value then return value else right.eval lookup
  | .binary operator left right => do
    let a ← left.eval lookup
    let b ← right.eval lookup
    match operator.apply a b with
    | .ok value => return value
    | .error fault => throw (.condition (Expr.binary operator left right).shown fault)

/-- Whether the value of an expression counts as true. -/
def Expr.test (lookup : String → Option Json) (e : Expr) : SqlResult Bool :=
  (e.eval lookup).map isTrue

end QueryLoom.Condition

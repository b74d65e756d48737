import QueryLoom.Decimal.Binary
import QueryLoom.Decimal.Reader
import QueryLoom.Template.Block
import QueryLoom.Template.Environment

/-!
# Helpers

Helpers compute a value from their arguments, or render the content of a block. A name that belongs
to no helper means a section: a block over a value of the view.
-/

namespace QueryLoom.Template

/-! ### Kinds -/

/-- The relations that values are compared by. -/
inductive Relation where
  | equal
  | different
  | greater
  | atLeast
  | less
  | atMost
  deriving DecidableEq, Repr

/-- What computes a value. -/
inductive Function where
  | lookup
  | compare (relation : Relation)
  | both
  | either
  | negate
  | size
  deriving DecidableEq, Repr

/-- What renders the content of a block. -/
inductive Helper where
  | conditional (positive : Bool)
  | each
  | within
  | verbatim
  | log
  | sectionBlock
  | sql (b : SqlBlock)
  deriving DecidableEq, Repr

/-- The functions by name. -/
def Function.names : List (String × Function) := [
  ("lookup", .lookup), ("eq", .compare .equal), ("ne", .compare .different),
  ("gt", .compare .greater), ("gte", .compare .atLeast), ("lt", .compare .less),
  ("lte", .compare .atMost), ("and", .both), ("or", .either), ("not", .negate), ("len", .size)]

/-- The function of a name. -/
def Function.ofName? (name : String) : Option Function := names.lookup name

/-- The helpers by name, apart from those for SQL. -/
def Helper.names : List (String × Helper) := [
  ("if", .conditional true), ("unless", .conditional false), ("each", .each), ("with", .within),
  ("raw", .verbatim), ("log", .log), ("blockHelperMissing", .sectionBlock)]

/-- The helper of a name. -/
def Helper.ofName? (name : String) : Option Helper :=
  match names.lookup name with
  | some h => some h
  | none => (SqlBlock.ofName? name).map .sql

/-! ### Truth -/

/-- Whether a value counts as true for helpers: empty arrays and objects do not, and zero only if
it is asked for. -/
def isTruthy (includeZero : Bool) : Json → Bool
  | .null => false
  | .bool b => b
  | .int n => includeZero || n != 0
  | .float f =>
    if includeZero then !f.isNaN
    else Decimal.isFinite f && (Decimal.Binary.ofFloat f).mantissa ≥ Nat.pow 2 52
  | .string s => !s.isEmpty
  | .array items => !items.isEmpty
  | .object entries => !entries.isEmpty

/-- Whether a value counts as true for sections: zero and empty arrays do not, objects always do. -/
def isFilled : Json → Bool
  | .null => false
  | .bool b => b
  | .int n => n != 0
  | .float f => f != 0
  | .string s => !s.isEmpty
  | .array items => !items.isEmpty
  | .object _ => true

/-! ### Comparison -/

/-- A number as a mantissa and a power of two. -/
def exactNumber? : Json → Option (Int × Int)
  | .int n => some (n, 0)
  | .float f =>
    if !Decimal.isFinite f then none
    else
      let b := Decimal.Binary.ofFloat f
      some (if Decimal.isNegative f then -(b.mantissa : Int) else b.mantissa, b.exponent)
  | _ => none

/-- The order of two exact numbers. -/
def compareExact (a b : Int × Int) : Ordering :=
  let q := min a.2 b.2
  compare (a.1 * Nat.pow 2 (a.2 - q).toNat) (b.1 * Nat.pow 2 (b.2 - q).toNat)

/-- The order of two numbers. -/
def compareNumbers? (a b : Json) : Option Ordering := do
  return compareExact (← exactNumber? a) (← exactNumber? b)

/-- The order of two values: of numbers, texts or truth values; a text may stand for a number. -/
def compareValues? (a b : Json) : Option Ordering :=
  match a, b with
  | .string x, .string y => some (compare x y)
  | .bool x, .bool y => some (compare x y)
  | .string x, y => (Decimal.readFloat? x.toList).bind fun f => compareNumbers? (.float f) y
  | x, .string y => (Decimal.readFloat? y.toList).bind fun f => compareNumbers? x (.float f)
  | x, y => compareNumbers? x y

/-- Whether two values are in a relation. -/
def Relation.holds (r : Relation) (a b : Json) : Bool :=
  match r with
  | .equal => a == b
  | .different => !(a == b)
  | .greater => compareValues? a b == some .gt
  | .atLeast => (compareValues? a b).any (· != .lt)
  | .less => compareValues? a b == some .lt
  | .atMost => (compareValues? a b).any (· != .gt)

/-! ### Functions -/

/-- An item of an array or an entry of an object. -/
def lookupIn (collection key : Json) : Option Json :=
  match collection, key with
  | .array items, .int n => if n < 0 then none else items[n.toNat]?
  | .object entries, .string k => KeyMap.get? k entries
  | _, _ => none

/-- The number of items, entries or bytes of a value. -/
def sizeOfValue : Json → Nat
  | .array items => items.length
  | .object entries => entries.length
  | .string s => s.utf8ByteSize
  | _ => 0

/-- The value of a function; there may be none. Further arguments do not count. -/
def Function.apply (f : Function) (args : List Json) : Except String (Option Json) :=
  match f, args with
  | .lookup, a :: b :: _ => .ok (lookupIn a b)
  | .compare r, a :: b :: _ => .ok (some (.bool (r.holds a b)))
  | .both, a :: b :: _ => .ok (some (.bool (isTruthy false a && isTruthy false b)))
  | .either, a :: b :: _ => .ok (some (.bool (isTruthy false a || isTruthy false b)))
  | .negate, a :: _ => .ok (some (.bool (!isTruthy false a)))
  | .size, a :: _ => .ok (some (.int (sizeOfValue a)))
  | _, _ => .error "missing argument"

/-- The levels that may be logged at. -/
def logLevels : List String := ["error", "warn", "info", "debug", "trace"]

/-- Whether a log has a level that exists. -/
def logs (named : KeyMap Found) : Bool :=
  match (KeyMap.get? "level" named).map Found.value with
  | some (.string level) => logLevels.contains (level.map Char.toLower)
  | _ => true

end QueryLoom.Template

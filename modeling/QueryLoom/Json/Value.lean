import QueryLoom.KeyMap

/-!
# Data values

Parameter bags, records and template views are JSON values. A number is either an integer of 64
bits, signed or unsigned, or a double; the two are different values even where they are equal as
numbers. An object holds its entries in the order of its keys.
-/

namespace QueryLoom

/-- A JSON value. -/
inductive Json where
  | null
  | bool (b : Bool)
  | int (n : Int)
  | float (f : Float)
  | string (s : String)
  | array (items : List Json)
  | object (entries : List (String × Json))

namespace Json

instance : Inhabited Json := ⟨.null⟩

/-! ### Equality -/

mutual

/-- Equality of values; doubles are compared as numbers, and never with integers. -/
def beq : Json → Json → Bool
  | .null, .null => true
  | .bool a, .bool b => a == b
  | .int a, .int b => a == b
  | .float a, .float b => a == b
  | .string a, .string b => a == b
  | .array as, .array bs => beqItems as bs
  | .object as, .object bs => beqEntries as bs
  | _, _ => false

/-- Equality of arrays, item by item. -/
def beqItems : List Json → List Json → Bool
  | [], [] => true
  | a :: as, b :: bs => beq a b && beqItems as bs
  | _, _ => false

/-- Equality of objects, entry by entry. -/
def beqEntries : List (String × Json) → List (String × Json) → Bool
  | [], [] => true
  | (k, a) :: as, (l, b) :: bs => k == l && beq a b && beqEntries as bs
  | _, _ => false

end

instance : BEq Json := ⟨beq⟩

/-! ### Views -/

/-- Whether the value is `null`. -/
def isNull : Json → Bool
  | .null => true
  | _ => false

/-- The entry of an object under a key. -/
def get? (key : String) : Json → Option Json
  | .object entries => KeyMap.get? key entries
  | _ => none

/-- The object with the given entries; of two values for one key the later counts. -/
def ofEntries (entries : List (String × Json)) : Json :=
  .object (KeyMap.ofEntries entries)

@[simp] theorem get?_object (key : String) (entries : KeyMap Json) :
    (Json.object entries).get? key = KeyMap.get? key entries := rfl

end Json

end QueryLoom

import QueryLoom.Json.Value
import QueryLoom.Decimal.Shortest

/-!
# The text of a value

The compact JSON text: no white space, object entries in key order, doubles with the fewest digits
that read back.
-/

namespace QueryLoom.Json

/-- Doubles are written positionally from `0.00001` up to sixteen digits before the point; beyond
that the exponent is written with its sign. -/
def numberLayout : Decimal.Layout := ⟨-5, 16, true⟩

/-- The text of a double; the values that are no numbers have no JSON text but `null`. -/
def floatText (f : Float) : String :=
  if Decimal.isFinite f then numberLayout.render f else "null"

/-- A character as it stands between the quotes of a JSON string. -/
def escaped (c : Char) : List Char :=
  match c with
  | '"' => ['\\', '"']
  | '\\' => ['\\', '\\']
  | '\n' => ['\\', 'n']
  | '\r' => ['\\', 'r']
  | '\t' => ['\\', 't']
  | '\x08' => ['\\', 'b']
  | '\x0c' => ['\\', 'f']
  | c =>
    if c.toNat < 0x20 then
      ['\\', 'u', '0', '0', Nat.digitChar (c.toNat / 16), Nat.digitChar (c.toNat % 16)]
    else [c]

/-- A string in quotes. -/
def quotedText (s : String) : String :=
  String.ofList ('"' :: s.toList.flatMap escaped ++ ['"'])

mutual

/-- The compact text of a value. -/
def compact : Json → String
  | .null => "null"
  | .bool b => if b then "true" else "false"
  | .int n => toString n
  | .float f => floatText f
  | .string s => quotedText s
  | .array items => "[" ++ ",".intercalate (compactItems items) ++ "]"
  | .object entries => "\x7b" ++ ",".intercalate (compactEntries entries) ++ "\x7d"

/-- The compact texts of the items of an array. -/
def compactItems : List Json → List String
  | [] => []
  | item :: items => compact item :: compactItems items

/-- The compact texts of the entries of an object. -/
def compactEntries : List (String × Json) → List String
  | [] => []
  | (key, value) :: entries => (quotedText key ++ ":" ++ compact value) :: compactEntries entries

end

end QueryLoom.Json

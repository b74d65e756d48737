import QueryLoom.Text.HiddenTable
import QueryLoom.Text.CharClass

/-!
# Quoting text in messages

Messages show a text between double quotes. Quotes, backslashes and line breaks are escaped, and
so is every character without a glyph of its own, by its number in braces.
-/

namespace QueryLoom.Text

/-- Whether a character is shown by its number. -/
def isHidden (c : Char) : Bool :=
  if c.toNat < 0x80 then c.toNat < 0x20 || c.toNat == 0x7f else covers hiddenTable c

/-- A character as messages show it. -/
def shownChar (c : Char) : List Char :=
  match c with
  | '"' => ['\\', '"']
  | '\\' => ['\\', '\\']
  | '\n' => ['\\', 'n']
  | '\r' => ['\\', 'r']
  | '\t' => ['\\', 't']
  | '\x00' => ['\\', '0']
  | c =>
    if isHidden c then "\\u\x7b".toList ++ Nat.toDigits 16 c.toNat ++ ['\x7d'] else [c]

/-- A text in double quotes, as messages show it. -/
def shown (s : String) : String :=
  String.ofList ('"' :: s.toList.flatMap shownChar ++ ['"'])

/-- A list of texts, as messages show it. -/
def shownList (items : List String) : String :=
  "[" ++ ", ".intercalate (items.map shown) ++ "]"

end QueryLoom.Text

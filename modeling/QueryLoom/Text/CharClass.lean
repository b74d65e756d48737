import QueryLoom.Text.LetterTable
import QueryLoom.Text.DigitTable
import QueryLoom.Text.CaseTable

/-!
# Classes of characters

The Unicode classes that decide where a name, a word or a blank begins and ends, and the letter
cases. The ASCII part is written out; the rest comes from the tables, which are those of Unicode 16.
-/

namespace QueryLoom.Text

/-! ### Classes -/

/-- White space: the property White_Space. -/
def isBlank (c : Char) : Bool :=
  let n := c.toNat
  (9 ≤ n && n ≤ 13) || n == 0x20 || n == 0x85 || n == 0xa0 || n == 0x1680 ||
    (0x2000 ≤ n && n ≤ 0x200a) || n == 0x2028 || n == 0x2029 || n == 0x202f || n == 0x205f ||
    n == 0x3000

/-- An ASCII letter. -/
def isAsciiLetter (c : Char) : Bool :=
  ('a' ≤ c && c ≤ 'z') || ('A' ≤ c && c ≤ 'Z')

/-- An ASCII digit. -/
def isAsciiDigit (c : Char) : Bool :=
  '0' ≤ c && c ≤ '9'

/-- An ASCII letter or digit. -/
def isAsciiAlphanumeric (c : Char) : Bool :=
  isAsciiLetter c || isAsciiDigit c

/-- A letter: the property Alphabetic. -/
def isLetter (c : Char) : Bool :=
  if c.toNat < 0x80 then isAsciiLetter c else covers alphabeticTable c

/-- A decimal digit: the category Nd. -/
def isDigit (c : Char) : Bool :=
  if c.toNat < 0x80 then isAsciiDigit c else covers digitTable c

/-- A letter or a number of any category. -/
def isAlphanumeric (c : Char) : Bool :=
  if c.toNat < 0x80 then isAsciiAlphanumeric c
  else covers alphabeticTable c || covers digitTable c || covers otherNumberTable c

/-- A number of any category. -/
def isNumber (c : Char) : Bool :=
  if c.toNat < 0x80 then isAsciiDigit c
  else covers digitTable c || covers letterNumberTable c || covers otherNumberTable c

/-- A character of a word: letters, decimal digits, marks, connectors and joiners. -/
def isWordChar (c : Char) : Bool :=
  if c.toNat < 0x80 then isAsciiAlphanumeric c || c == '_'
  else covers alphabeticTable c || covers digitTable c || covers wordMarkTable c

/-- A capital: the property Uppercase. -/
def isCapital (c : Char) : Bool :=
  if c.toNat < 0x80 then 'A' ≤ c && c ≤ 'Z' else covers uppercaseTable c

/-- A small letter: the property Lowercase. -/
def isSmall (c : Char) : Bool :=
  if c.toNat < 0x80 then 'a' ≤ c && c ≤ 'z' else covers lowercaseTable c

/-! ### Case mappings -/

/-- The small form of a character; only the dotted capital I has two characters. -/
def toSmall (c : Char) : List Char :=
  if c.toNat < 0x80 then [c.toLower]
  else if c.toNat = 0x130 then ['i', Char.ofNat 0x307]
  else [move smallShifts c]

/-- The capital form of a character. -/
def toCapital (c : Char) : List Char :=
  if c.toNat < 0x80 then [c.toUpper]
  else (expandedCapitals.lookup c.toNat).getD [move capitalShifts c]

/-- The representative of a character among those that differ from it in case only. -/
def foldCase (c : Char) : Char :=
  if c.toNat < 0x80 then c.toLower
  else if c.toNat = 0x131 then c
  else
    let upper := move capitalShifts c
    if upper.toNat < 0x80 then upper.toLower else move smallShifts upper

/-- Equality of two characters up to case. -/
def sameIgnoringCase (a b : Char) : Bool :=
  foldCase a == foldCase b

end QueryLoom.Text

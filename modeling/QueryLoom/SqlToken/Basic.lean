import QueryLoom.Dialect
import QueryLoom.Text.CharClass

/-!
# Tokens of SQL text

A token keeps its text as it was written, so that a sequence of tokens can be written back. A few
spellings have one form only: `!=` is the token `<>`, a hexadecimal number is a hexadecimal string,
and the letter before a string is a capital.
-/

namespace QueryLoom

/-- A token of SQL text. -/
inductive SqlToken where
  | blank
  | lineComment (opening body : List Char)
  | blockComment (body : List Char)
  | word (text : List Char)
  | quotedWord (quote : Char) (text : List Char)
  | string (lead : List Char) (quote : Char) (text : List Char)
  | dollarString (tag text : List Char)
  | number (text : List Char) (long : Bool)
  | placeholder (text : List Char)
  | openParen
  | closeParen
  | symbol (text : List Char)
  deriving DecidableEq, Repr

namespace SqlToken

/-- The quote that closes a quoted word. -/
def closingQuote (quote : Char) : Char :=
  if quote == '[' then ']' else quote

/-- The text of a token; white space is a single space. -/
def text : SqlToken → List Char
  | .blank => [' ']
  | .lineComment opening body => opening ++ body
  | .blockComment body => '/' :: '*' :: body ++ ['*', '/']
  | .word text => text
  | .quotedWord quote text => quote :: text ++ [closingQuote quote]
  | .string lead quote text => lead ++ quote :: text ++ [quote]
  | .dollarString tag text => '$' :: tag ++ '$' :: text ++ '$' :: tag ++ ['$']
  | .number text long => if long then text ++ ['L'] else text
  | .placeholder text => text
  | .openParen => ['(']
  | .closeParen => [')']
  | .symbol text => text

/-! ### Characters of words -/

/-- A character that may begin a bare word. -/
def startsWord (d : Dialect) (c : Char) : Bool :=
  match d with
  | .mysql =>
    Text.isLetter c || c == '_' || c == '$' || c == '@' || (0x80 ≤ c.toNat && c.toNat ≤ 0xffff)
  | .postgres => Text.isLetter c || c == '_'
  | .sqlite => Text.isLetter c || c == '_' || (0x7f ≤ c.toNat && c.toNat ≤ 0xffff)

/-- A character that may continue a bare word. -/
def continuesWord (d : Dialect) (c : Char) : Bool :=
  startsWord d c || Text.isAsciiDigit c || (d == .postgres && c == '$')

/-- A character that opens a quoted word. -/
def opensQuotedWord (d : Dialect) (c : Char) : Bool :=
  match d with
  | .mysql => c == '\x60'
  | .postgres => c == '"'
  | .sqlite => c == '\x60' || c == '"' || c == '['

/-- A character that extends an operator on PostgreSQL. -/
def isOperatorChar (c : Char) : Bool :=
  "+-*/<>=~!@#%^&|\x60?".toList.contains c

end SqlToken

end QueryLoom

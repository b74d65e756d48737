import QueryLoom.SqlToken.Basic
import QueryLoom.SqlToken.Literal

/-!
# Reading SQL tokens

The longest token at the start of the text is taken. Only an open quote or comment makes a text
unreadable; a character that fits nowhere is a token of its own.
-/

namespace QueryLoom.SqlToken

/-! ### Words, numbers and quotes -/

/-- The bare word that begins with `start`. -/
def lexWord (d : Dialect) (start cs : List Char) : SqlToken × List Char :=
  (.word (start ++ cs.takeWhile (continuesWord d)), cs.dropWhile (continuesWord d))

/-- A string after its opening quote. -/
def lexString (lead : List Char) (quote : Char) (escapes : Bool) (cs : List Char) :
    Except String (SqlToken × List Char) :=
  match readQuoted? escapes quote cs with
  | some (text, rest) => .ok (.string lead quote text, rest)
  | none => .error "unterminated string"

/-- A number, or on MySQL a word that begins with digits. -/
def lexNumber (d : Dialect) (cs : List Char) : SqlToken × List Char :=
  let (digits, rest) := readDigits cs
  if digits == ['.'] then (.symbol digits, rest)
  else
    match exponent? rest with
    | some (exponent, rest) => lexLong (digits ++ exponent) rest
    | none =>
      let tail := rest.takeWhile (continuesWord d)
      if d == .mysql && !startsExponent rest && !tail.isEmpty then
        (.word (digits ++ tail), rest.dropWhile (continuesWord d))
      else lexLong digits rest
where
  /-- A number with the mark of a long one after it. -/
  lexLong (digits rest : List Char) : SqlToken × List Char :=
    match rest with
    | 'L' :: rest => (.number digits true, rest)
    | rest => (.number digits false, rest)

/-- A token that begins with a digit or a point. -/
def lexDigits (d : Dialect) (cs : List Char) : SqlToken × List Char :=
  match cs with
  | '0' :: 'x' :: rest => (.string ['X'] '\'' (rest.takeWhile isHex), rest.dropWhile isHex)
  | cs => lexNumber d cs

/-- A string between dollar signs with a tag, or a placeholder, after the first dollar sign. -/
def lexDollar (cs : List Char) : Except String (SqlToken × List Char) :=
  match cs with
  | '$' :: rest =>
    match Text.cutAt? ['$', '$'] rest with
    | some (text, rest) => .ok (.dollarString [] text, rest)
    | none => .error "unterminated dollar-quoted string"
  | cs =>
    let isTagChar (c : Char) : Bool := Text.isAlphanumeric c || c == '_'
    let tag := cs.takeWhile isTagChar
    match cs.dropWhile isTagChar with
    | '$' :: rest =>
      match Text.cutAt? ('$' :: tag ++ ['$']) rest with
      | some (text, rest) => .ok (.dollarString tag text, rest)
      | none => .error "unterminated dollar-quoted string"
    | rest => .ok (.placeholder ('$' :: tag), rest)

/-! ### Operators -/

/-- An operator that PostgreSQL extends by the operator characters after it. -/
def lexOperator (d : Dialect) (text rest : List Char) : SqlToken × List Char :=
  if d == .postgres then
    (.symbol (text ++ rest.takeWhile isOperatorChar), rest.dropWhile isOperatorChar)
  else (.symbol text, rest)

/-- A token that begins with an at sign, after that sign. On MySQL it begins a word. -/
def lexAt (d : Dialect) (cs : List Char) : SqlToken × List Char :=
  match cs with
  | '>' :: rest => (.symbol ['@', '>'], rest)
  | '?' :: rest => (.symbol ['@', '?'], rest)
  | '@' :: ' ' :: _ => (.symbol ['@', '@'], cs.drop 1)
  | '@' :: c :: rest =>
    if d == .mysql then lexWord d ['@', '@', c] rest else (.symbol ['@', '@'], c :: rest)
  | ['@'] => (.symbol ['@', '@'], [])
  | c :: rest =>
    if d == .mysql && !(c == ' ' || c == '\'' || c == '"' || c == '\x60') then
      lexWord d ['@', c] rest
    else (.symbol ['@'], c :: rest)
  | [] => (.symbol ['@'], [])

/-- A token that begins with an operator character. -/
def lexSymbol (d : Dialect) (c : Char) (cs : List Char) : SqlToken × List Char :=
  match c, cs with
  | '(', cs => (.openParen, cs)
  | ')', cs => (.closeParen, cs)
  | '-', '>' :: '>' :: cs => lexOperator d ['-', '>', '>'] cs
  | '-', '>' :: cs => lexOperator d ['-', '>'] cs
  | '-', cs => lexOperator d ['-'] cs
  | '%', b :: cs => if Text.isBlank b then (.symbol ['%'], b :: cs) else lexOperator d ['%'] (b :: cs)
  | '|', '/' :: cs => lexOperator d ['|', '/'] cs
  | '|', '|' :: '/' :: cs => lexOperator d ['|', '|', '/'] cs
  | '|', '|' :: cs => lexOperator d ['|', '|'] cs
  | '|', cs => lexOperator d ['|'] cs
  | '=', '>' :: cs => (.symbol ['=', '>'], cs)
  | '=', '=' :: cs => (.symbol ['=', '='], cs)
  | '!', '=' :: cs => (.symbol ['<', '>'], cs)
  | '!', '!' :: cs => (.symbol ['!', '!'], cs)
  | '!', '~' :: '*' :: cs => (.symbol ['!', '~', '*'], cs)
  | '!', '~' :: '~' :: '*' :: cs => (.symbol ['!', '~', '~', '*'], cs)
  | '!', '~' :: '~' :: cs => (.symbol ['!', '~', '~'], cs)
  | '!', '~' :: cs => (.symbol ['!', '~'], cs)
  | '<', '=' :: '>' :: cs => lexOperator d ['<', '=', '>'] cs
  | '<', '=' :: cs => lexOperator d ['<', '='] cs
  | '<', '>' :: cs => lexOperator d ['<', '>'] cs
  | '<', '<' :: cs => lexOperator d ['<', '<'] cs
  | '<', '@' :: cs => lexOperator d ['<', '@'] cs
  | '<', cs => lexOperator d ['<'] cs
  | '>', '=' :: cs => lexOperator d ['>', '='] cs
  | '>', '>' :: cs => lexOperator d ['>', '>'] cs
  | '>', cs => lexOperator d ['>'] cs
  | ':', ':' :: cs => (.symbol [':', ':'], cs)
  | ':', '=' :: cs => (.symbol [':', '='], cs)
  | '&', '&' :: cs => lexOperator d ['&', '&'] cs
  | '&', cs => lexOperator d ['&'] cs
  | '^', '@' :: cs => (.symbol ['^', '@'], cs)
  | '~', '*' :: cs => lexOperator d ['~', '*'] cs
  | '~', '~' :: '*' :: cs => lexOperator d ['~', '~', '*'] cs
  | '~', '~' :: cs => lexOperator d ['~', '~'] cs
  | '~', cs => lexOperator d ['~'] cs
  | '#', '-' :: cs => lexOperator d ['#', '-'] cs
  | '#', '>' :: '>' :: cs => lexOperator d ['#', '>', '>'] cs
  | '#', '>' :: cs => lexOperator d ['#', '>'] cs
  | '#', ' ' :: cs => (.symbol ['#'], ' ' :: cs)
  | '#', '#' :: cs => lexOperator d ['#', '#'] cs
  | '#', cs => lexOperator d ['#'] cs
  | '@', cs => lexAt d cs
  | '?', cs => lexQuestion cs
  | c, cs => (.symbol [c], cs)
where
  /-- A token that begins with a question mark. PostgreSQL has operators there, and its plain
  question mark takes the next character away. -/
  lexQuestion (cs : List Char) : SqlToken × List Char :=
    if d == .postgres then
      match cs with
      | '|' :: rest => (.symbol ['?', '|'], rest)
      | '&' :: rest => (.symbol ['?', '&'], rest)
      | cs => (.symbol ['?'], cs.drop 1)
    else (.placeholder ('?' :: cs.takeWhile Text.isNumber), cs.dropWhile Text.isNumber)

/-! ### Tokens -/

/-- A string that a letter announces, or the word that begins with the letter. -/
def lexLetter (d : Dialect) (c : Char) (cs : List Char) : Except String (SqlToken × List Char) :=
  match c.toUpper, cs with
  | 'B', '\'' :: rest =>
    if d == .sqlite then .ok (lexWord d [c] cs) else lexString ['B'] '\'' false rest
  | 'B', '"' :: rest =>
    if d == .sqlite then .ok (lexWord d [c] cs) else lexString ['B'] '"' false rest
  | 'N', '\'' :: rest => lexString ['N'] '\'' true rest
  | 'X', '\'' :: rest => lexString ['X'] '\'' true rest
  | 'E', '\'' :: rest =>
    match readEscaped? rest with
    | some (text, rest) => .ok (.string ['E'] '\'' text, rest)
    | none => .error "unterminated encoded string"
  | 'U', '&' :: '\'' :: rest =>
    if d == .postgres then
      match readNumbered? rest with
      | some (text, rest) => .ok (.string ['U', '&'] '\'' text, rest)
      | none => .error "unterminated unicode string"
    else .ok (lexWord d [c] cs)
  | _, cs => .ok (lexWord d [c] cs)

/-- A comment, if one begins here. -/
def lexComment? (d : Dialect) (c : Char) (cs : List Char) :
    Option (Except String (SqlToken × List Char)) :=
  let line (opening cs : List Char) : Except String (SqlToken × List Char) :=
    let (body, rest) := readLine (fun c => c == '\n' || (d == .postgres && c == '\r')) cs
    .ok (.lineComment opening body, rest)
  match c, cs with
  | '-', '-' :: rest => some (line ['-', '-'] rest)
  | '#', rest => if d == .mysql then some (line ['#'] rest) else none
  | '/', '*' :: rest =>
    match readBlock? 0 ' ' rest with
    | some (body, rest) => some (.ok (.blockComment body.dropLast, rest))
    | none => some (.error "unterminated comment")
  | _, _ => none

/-- The token that begins with the character `c`, and what follows it. -/
def next (d : Dialect) (c : Char) (cs : List Char) : Except String (SqlToken × List Char) :=
  if c == ' ' || c == '\t' || c == '\n' then .ok (.blank, cs)
  else if c == '\r' then
    match cs with
    | '\n' :: rest => .ok (.blank, rest)
    | cs => .ok (.blank, cs)
  else
    match lexComment? d c cs with
    | some result => result
    | none =>
      if Text.isAsciiLetter c then lexLetter d c cs
      else if c == '\'' then lexString [] '\'' (d == .mysql) cs
      else if opensQuotedWord d c then
        match readQuoted? false (closingQuote c) cs with
        | some (text, rest) => .ok (.quotedWord c text, rest)
        | none => .error "unterminated identifier"
      else if c == '"' then lexString [] '"' true cs
      else if Text.isAsciiDigit c || c == '.' then .ok (lexDigits d (c :: cs))
      else if c == '@' then .ok (lexAt d cs)
      else if startsWord d c then .ok (lexWord d [c] cs)
      else if c == '$' then lexDollar cs
      else if Text.isBlank c then .ok (.blank, cs)
      else .ok (lexSymbol d c cs)

theorem next_newline {d : Dialect} {cs : List Char} :
    next d '\r' ('\n' :: cs) = .ok (.blank, cs) := by
  simp [next]

/-- The tokens of a text; `budget` bounds their number. -/
def lexWithin (d : Dialect) : (budget : Nat) → List Char → Except String (List SqlToken)
  | _, [] => .ok []
  | 0, _ :: _ => .ok []
  | budget + 1, c :: cs =>
    match next d c cs with
    | .error reason => .error reason
    | .ok (token, rest) => (lexWithin d budget rest).map (token :: ·)

/-- The tokens of a text. Every token takes a character, so there are no more tokens than
characters. -/
def ofText (d : Dialect) (cs : List Char) : Except String (List SqlToken) :=
  lexWithin d cs.length cs

end QueryLoom.SqlToken

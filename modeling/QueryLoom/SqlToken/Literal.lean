import QueryLoom.Text.CharClass
import QueryLoom.Text.Trim
import QueryLoom.Json.Reader

/-!
# Literals in SQL text

The inside of strings, comments and numbers, read after what opens them. Each reader returns what
it took and what follows, which is never longer than what it was given.
-/

namespace QueryLoom.SqlToken

/-! ### Quotes -/

/-- Text up to a closing quote that stands alone, kept as written, and what follows the quote.
With escapes a backslash takes the next character with it. -/
def readQuoted? (escapes : Bool) (quote : Char) : List Char → Option (List Char × List Char)
  | [] => none
  | [c] => if c == quote then some ([], []) else none
  | c :: e :: rest =>
    if c == quote then
      if e == quote then
        (readQuoted? escapes quote rest).map fun (text, rest) => (c :: e :: text, rest)
      else some ([], e :: rest)
    else if escapes && c == '\\' then
      (readQuoted? escapes quote rest).map fun (text, rest) => (c :: e :: text, rest)
    else (readQuoted? escapes quote (e :: rest)).map fun (text, rest) => (c :: text, rest)

/-! ### Comments -/

/-- The body of a block comment up to the star of its end, which is included, and what follows the
end. Comments nest; `last` is the character before. -/
def readBlock? (depth : Nat) (last : Char) : List Char → Option (List Char × List Char)
  | [] => none
  | c :: rest =>
    if last == '/' && c == '*' then
      (readBlock? (depth + 1) c rest).map fun (body, rest) => (c :: body, rest)
    else if last == '*' && c == '/' then
      match depth with
      | 0 => some ([], rest)
      | depth + 1 => (readBlock? depth c rest).map fun (body, rest) => (c :: body, rest)
    else (readBlock? depth c rest).map fun (body, rest) => (c :: body, rest)

/-- A line comment with the character that ends it. -/
def readLine (ends : Char → Bool) : List Char → List Char × List Char
  | [] => ([], [])
  | c :: rest =>
    if ends c then ([c], rest)
    else
      let (body, rest) := readLine ends rest
      (c :: body, rest)

/-! ### Escaped strings -/

/-- The character of a code in an escape; zero is none. -/
def charOfCode? (n : Nat) : Option Char :=
  if n = 0 || (0xd800 ≤ n && n < 0xe000) || 0x110000 ≤ n then none else some (Char.ofNat n)

/-- The value of hexadecimal digits, which a plus sign may precede. -/
def hexCode? (cs : List Char) : Option Nat :=
  let digits := match cs with
    | '+' :: rest => rest
    | cs => cs
  if digits.isEmpty then none
  else digits.foldlM (fun n c => (Json.hexValue? c).map (n * 16 + ·)) 0

/-- Whether a character is a hexadecimal digit. -/
def isHex (c : Char) : Bool := (Json.hexValue? c).isSome

/-- Whether a character is an octal digit. -/
def isOctal (c : Char) : Bool := '0' ≤ c && c ≤ '7'

/-- The character of a byte; only ASCII is allowed. -/
def charOfByte? (n : Nat) : Option Char :=
  let byte := n % 256
  if byte ≤ 127 then charOfCode? byte else none

/-- The character of an escape that begins with `c`, and how many of the following characters
belong to it. -/
def escapeValue? (c : Char) (rest : List Char) : Option (Char × Nat) :=
  match c with
  | 'b' => some ('\x08', 0)
  | 'f' => some ('\x0c', 0)
  | 'n' => some ('\n', 0)
  | 'r' => some ('\r', 0)
  | 't' => some ('\t', 0)
  | 'u' =>
    if rest.length < 4 then none
    else (hexCode? (rest.take 4)).bind fun n => (charOfCode? n).map (·, 4)
  | 'U' =>
    if rest.length < 8 then none
    else (hexCode? (rest.take 8)).bind fun n => (charOfCode? n).map (·, 8)
  | 'x' =>
    let digits := (rest.take 2).takeWhile isHex
    if digits.isEmpty then some ('x', 0)
    else (hexCode? digits).bind fun n => (charOfByte? n).map (·, digits.length)
  | c =>
    if isOctal c then
      let digits := (rest.take 2).takeWhile isOctal
      let n := (c :: digits).foldl (fun n d => n * 8 + (d.toNat - '0'.toNat)) 0
      (charOfByte? n).map (·, digits.length)
    else (charOfCode? c.toNat).map (·, 0)

/-- The value of a string with escapes, and what follows its closing quote. -/
def readEscaped? : List Char → Option (List Char × List Char)
  | [] => none
  | '\'' :: '\'' :: rest => (readEscaped? rest).map fun (text, rest) => ('\'' :: text, rest)
  | '\'' :: rest => some ([], rest)
  | '\\' :: c :: rest =>
    match escapeValue? c rest with
    | none => none
    | some (value, used) =>
      (readEscaped? (rest.drop used)).map fun (text, rest) => (value :: text, rest)
  | ['\\'] => none
  | c :: rest => (readEscaped? rest).map fun (text, rest) => (c :: text, rest)
termination_by cs => cs.length
decreasing_by all_goals simp only [List.length_drop, List.length_cons]; omega

/-- The character of exactly `count` hexadecimal digits, and what follows them. -/
def readHexChar? (count : Nat) (cs : List Char) : Option (Char × List Char) :=
  let digits := cs.take count
  if digits.length < count || !digits.all isHex then none
  else
    let n := digits.foldl (fun n c => n * 16 + (Json.hexValue? c).getD 0) 0
    if (0xd800 ≤ n && n < 0xe000) || 0x110000 ≤ n then none
    else some (Char.ofNat n, cs.drop count)

theorem length_readHexChar? {count : Nat} {cs rest : List Char} {c : Char}
    (h : readHexChar? count cs = some (c, rest)) : rest.length ≤ cs.length := by
  simp only [readHexChar?] at h
  split at h <;> try contradiction
  split at h <;> try contradiction
  simp only [Option.some.injEq, Prod.mk.injEq] at h
  rw [← h.2, List.length_drop]
  omega

/-- The value of a string with numbered characters, and what follows its closing quote. -/
def readNumbered? (cs : List Char) : Option (List Char × List Char) :=
  match cs with
  | [] => none
  | '\'' :: '\'' :: rest => (readNumbered? rest).map fun (text, rest) => ('\'' :: text, rest)
  | '\'' :: rest => some ([], rest)
  | '\\' :: '\\' :: rest => (readNumbered? rest).map fun (text, rest) => ('\\' :: text, rest)
  | '\\' :: '+' :: rest =>
    match h : readHexChar? 6 rest with
    | none => none
    | some (c, rest') =>
      have := length_readHexChar? h
      (readNumbered? rest').map fun (text, rest) => (c :: text, rest)
  | '\\' :: rest =>
    match h : readHexChar? 4 rest with
    | none => none
    | some (c, rest') =>
      have := length_readHexChar? h
      (readNumbered? rest').map fun (text, rest) => (c :: text, rest)
  | c :: rest => (readNumbered? rest).map fun (text, rest) => (c :: text, rest)
termination_by cs.length
decreasing_by all_goals simp only [List.length_cons]; omega

/-! ### Numbers -/

/-- The exponent at the start of a text, if there is a whole one. -/
def exponent? (cs : List Char) : Option (List Char × List Char) :=
  match cs with
  | e :: rest =>
    if e == 'e' || e == 'E' then
      let (sign, rest) := match rest with
        | '+' :: rest => (['+'], rest)
        | '-' :: rest => (['-'], rest)
        | rest => ([], rest)
      let digits := rest.takeWhile Text.isAsciiDigit
      if digits.isEmpty then none
      else some (e :: sign ++ digits, rest.dropWhile Text.isAsciiDigit)
    else none
  | [] => none

/-- Whether a text begins with the letter of an exponent. -/
def startsExponent : List Char → Bool
  | 'e' :: _ | 'E' :: _ => true
  | _ => false

/-- Digits with at most one point among them, and what follows. -/
def readDigits (cs : List Char) : List Char × List Char :=
  let whole := cs.takeWhile Text.isAsciiDigit
  match cs.dropWhile Text.isAsciiDigit with
  | '.' :: rest =>
    (whole ++ '.' :: rest.takeWhile Text.isAsciiDigit, rest.dropWhile Text.isAsciiDigit)
  | rest => (whole, rest)

end QueryLoom.SqlToken

import QueryLoom.Text.CharClass

/-!
# Character references

An ampersand begins a reference to a character, by its name or its number, that ends at a
semicolon. There are five names.
-/

namespace QueryLoom.Markup.Entity

/-- The named characters. -/
def named : List (String × Char) :=
  [("lt", '<'), ("gt", '>'), ("amp", '&'), ("apos", '\''), ("quot", '"')]

/-- The value of a digit in base sixteen. -/
def hexValue? (c : Char) : Option Nat :=
  if '0' ≤ c && c ≤ '9' then some (c.toNat - '0'.toNat)
  else if 'a' ≤ c && c ≤ 'f' then some (c.toNat - 'a'.toNat + 10)
  else if 'A' ≤ c && c ≤ 'F' then some (c.toNat - 'A'.toNat + 10)
  else none

/-- The value of a digit in base ten. -/
def decimalValue? (c : Char) : Option Nat :=
  if Text.isAsciiDigit c then some (c.toNat - '0'.toNat) else none

/-- The number written with the given digits. -/
def number? (base : Nat) (digit? : Char → Option Nat) (cs : List Char) : Option Nat :=
  if cs.isEmpty then none
  else cs.foldlM (fun n c => (digit? c).map fun d => n * base + d) 0

/-- The character of a code point; zero is none. -/
def charOf? (n : Nat) : Option Char :=
  if n ≠ 0 ∧ n.isValidChar then some (Char.ofNat n) else none

/-- The character a reference stands for. -/
def char? (reference : List Char) : Option Char :=
  match reference with
  | '#' :: 'x' :: digits => (number? 16 hexValue? digits).bind charOf?
  | '#' :: digits => (number? 10 decimalValue? digits).bind charOf?
  | name => named.lookup (String.ofList name)

/-- A text with its references resolved. `pending` holds what has been read of a reference, in
reverse. -/
def resolve (pending : Option (List Char)) : List Char → Except String (List Char)
  | [] =>
    match pending with
    | none => .ok []
    | some _ => .error "unterminated reference"
  | c :: cs =>
    match pending with
    | none =>
      if c == '&' then resolve (some []) cs else (resolve none cs).map (c :: ·)
    | some name =>
      if c == '&' then .error "unterminated reference"
      else if c == ';' then
        match char? name.reverse with
        | some d => (resolve none cs).map (d :: ·)
        | none => .error "unknown reference"
      else resolve (some (c :: name)) cs

end QueryLoom.Markup.Entity

import QueryLoom.Decimal.Reader
import QueryLoom.Decimal.Shortest
import QueryLoom.Error
import QueryLoom.Text.Shown

/-!
# Tokens of conditions

Numbers, strings, paths, the words and signs of the operators, and parentheses. White space only
separates tokens.
-/

namespace QueryLoom.Condition

/-- A binary operator on values. -/
inductive Operator where
  | eq
  | ne
  | lt
  | le
  | gt
  | ge
  | add
  | sub
  | mul
  | div
  | rem
  deriving DecidableEq, Repr

/-- A token. -/
inductive Token where
  | number (f : Float)
  | string (s : String)
  | path (p : String)
  | null
  | true
  | false
  | open
  | close
  | not
  | and
  | or
  | op (operator : Operator)

/-! ### Names in messages -/

/-- The name of an operator. -/
def Operator.name : Operator → String
  | .eq => "Eq"
  | .ne => "Ne"
  | .lt => "Lt"
  | .le => "Le"
  | .gt => "Gt"
  | .ge => "Ge"
  | .add => "Add"
  | .sub => "Sub"
  | .mul => "Mul"
  | .div => "Div"
  | .rem => "Rem"

/-- Numbers in messages are positional from `0.0001` up to sixteen digits before the point. -/
def shownLayout : Decimal.Layout := ⟨-4, 16, Bool.false⟩

/-- A double as messages show it. -/
def shownFloat (f : Float) : String :=
  if Decimal.isFinite f then shownLayout.render f else "inf"

/-- A token as messages show it. -/
def Token.shown : Token → String
  | .number f => s!"Num({shownFloat f})"
  | .string s => s!"Str({Text.shown s})"
  | .path p => s!"Path({Text.shown p})"
  | .null => "Null"
  | .true => "True"
  | .false => "False"
  | .open => "LParen"
  | .close => "RParen"
  | .not => "Not"
  | .and => "And"
  | .or => "Or"
  | .op operator => s!"Op({operator.name})"

/-! ### Lexing -/

/-- The characters of a string after its opening quote, and what follows the closing one. A
backslash stands before a character that is taken as it is. -/
def readQuoted? (quote : Char) : List Char → Option (List Char × List Char)
  | [] => none
  | [c] => if c == quote then some ([], []) else none
  | c :: d :: rest =>
    if c == '\\' then (readQuoted? quote rest).map fun (cs, rest) => (d :: cs, rest)
    else if c == quote then some ([], d :: rest)
    else (readQuoted? quote (d :: rest)).map fun (cs, rest) => (c :: cs, rest)

/-- A character of a number. -/
def isNumberChar (c : Char) : Bool := Text.isAsciiDigit c || c == '.'

/-- A character that may begin a word or a path. -/
def startsWord (c : Char) : Bool := Text.isLetter c || c == '_' || c == '$'

/-- A character that may continue a word or a path. -/
def isWordChar (c : Char) : Bool :=
  Text.isAlphanumeric c || c == '_' || c == '$' || c == '.' || c == '[' || c == ']'

/-- The token of a word: an operator, a constant or a path. -/
def Token.ofWord (word : String) : Token :=
  match String.ofList (word.toList.map Char.toLower) with
  | "and" => .and
  | "or" => .or
  | "not" => .not
  | "null" | "undefined" => .null
  | "true" => .true
  | "false" => .false
  | "eq" => .op .eq
  | "neq" => .op .ne
  | "lt" => .op .lt
  | "lte" => .op .le
  | "gt" => .op .gt
  | "gte" => .op .ge
  | _ => .path word

/-- The token that begins with a sign, and what follows it. -/
def signToken? (c : Char) (cs : List Char) : Except ConditionFault (Token × List Char) :=
  match c, cs with
  | '(', cs => .ok (.open, cs)
  | ')', cs => .ok (.close, cs)
  | '=', '=' :: '=' :: cs => .ok (.op .eq, cs)
  | '=', '=' :: cs => .ok (.op .eq, cs)
  | '!', '=' :: '=' :: cs => .ok (.op .ne, cs)
  | '!', '=' :: cs => .ok (.op .ne, cs)
  | '!', cs => .ok (.not, cs)
  | '<', '=' :: cs => .ok (.op .le, cs)
  | '<', cs => .ok (.op .lt, cs)
  | '>', '=' :: cs => .ok (.op .ge, cs)
  | '>', cs => .ok (.op .gt, cs)
  | '&', '&' :: cs => .ok (.and, cs)
  | '|', '|' :: cs => .ok (.or, cs)
  | '+', cs => .ok (.op .add, cs)
  | '-', cs => .ok (.op .sub, cs)
  | '*', cs => .ok (.op .mul, cs)
  | '/', cs => .ok (.op .div, cs)
  | '%', cs => .ok (.op .rem, cs)
  | c, _ => .error (.unexpectedChar c)

/-- The token that begins with a character other than white space, and what follows it. -/
def readToken (c : Char) (cs : List Char) : Except ConditionFault (Token × List Char) :=
  if c == '\'' || c == '"' then
    match readQuoted? c cs with
    | some (s, rest) => .ok (.string (String.ofList s), rest)
    | none => .error .unterminatedString
  else if Text.isAsciiDigit c then
    let text := c :: cs.takeWhile isNumberChar
    match Decimal.readFloat? text with
    | some f => .ok (.number f, cs.dropWhile isNumberChar)
    | none => .error (.invalidNumber (String.ofList text))
  else if startsWord c then
    .ok (.ofWord (String.ofList (c :: cs.takeWhile isWordChar)), cs.dropWhile isWordChar)
  else signToken? c cs

/-! ### Every token takes a character -/

theorem length_readQuoted? {quote : Char} {cs text rest : List Char}
    (h : readQuoted? quote cs = some (text, rest)) : rest.length < cs.length := by
  fun_induction readQuoted? quote cs generalizing text rest <;>
    grind [Option.map_eq_some_iff]

theorem length_signToken? {c : Char} {cs rest : List Char} {t : Token}
    (h : signToken? c cs = .ok (t, rest)) : rest.length ≤ cs.length := by
  unfold signToken? at h
  split at h <;> simp_all <;> omega

theorem length_readToken {c : Char} {cs rest : List Char} {t : Token}
    (h : readToken c cs = .ok (t, rest)) : rest.length ≤ cs.length := by
  unfold readToken at h
  split at h
  · split at h
    · next hq =>
      have := length_readQuoted? hq
      simp_all
      omega
    · simp at h
  · split at h
    · simp only at h
      split at h
      · simp at h
        rw [← h.2]
        exact (List.dropWhile_suffix _).length_le
      · simp at h
    · split at h
      · simp at h
        rw [← h.2]
        exact (List.dropWhile_suffix _).length_le
      · exact length_signToken? h

/-- The tokens of a text. -/
def tokens : List Char → Except ConditionFault (List Token)
  | [] => .ok []
  | c :: cs =>
    if Text.isBlank c then tokens cs
    else
      match _h : readToken c cs with
      | .error fault => .error fault
      | .ok (t, rest) => (tokens rest).map (t :: ·)
termination_by cs => cs.length
decreasing_by
  · simp
  · have := length_readToken _h
    simp
    omega

end QueryLoom.Condition

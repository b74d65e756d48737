import QueryLoom.Dialect
import QueryLoom.Error
import QueryLoom.Text.CharClass

/-!
# Identifiers

A table or column reference is a sequence of parts between dots. A part is either a plain word of
ASCII letters, digits, `_` and `$`, or any text without NUL between quotes.
-/

namespace QueryLoom

/-- A part of an identifier. -/
inductive IdentPart where
  | plain (name : String)
  | quoted (name : String)
  deriving DecidableEq, Repr

/-- The name of a part, without quotes. -/
def IdentPart.name : IdentPart → String
  | .plain name => name
  | .quoted name => name

/-- A part as it is written. -/
def IdentPart.toSql (d : Dialect) : IdentPart → String
  | .plain name => name
  | .quoted name => d.quoteIdent name

/-- An identifier. -/
structure Ident where
  parts : List IdentPart
  deriving DecidableEq, Repr

namespace Ident

/-! ### Plain words -/

/-- A character that may begin a plain part. -/
def isPlainStart (c : Char) : Bool :=
  c == '_' || Text.isAsciiLetter c

/-- A character that may continue a plain part. -/
def isPlainChar (c : Char) : Bool :=
  c == '_' || c == '$' || Text.isAsciiAlphanumeric c

/-- Whether a text is a plain part. -/
def isPlain : List Char → Bool
  | [] => false
  | c :: cs => isPlainStart c && cs.all isPlainChar

/-! ### Reading -/

/-- The quote characters of identifiers in any dialect. -/
def isQuote (c : Char) : Bool :=
  c == '"' || c == '\x60'

/-- One part at the start of a non-empty text, and what follows it. `text` is the whole
identifier, for messages. -/
def readPart (text : String) (c : Char) (cs : List Char) :
    Except IdentFault (IdentPart × List Char) :=
  if isQuote c then
    match Text.readEnclosed? c cs with
    | none => .error (.unclosed text)
    | some (name, rest) =>
      if name.isEmpty then .error .emptyQuoted else .ok (.quoted (String.ofList name), rest)
  else
    let name := (c :: cs).takeWhile (· ≠ '.')
    if isPlain name then .ok (.plain (String.ofList name), cs.dropWhile (· ≠ '.'))
    else .error (.invalidPart (String.ofList name) text)

/-- What reading a part leaves over is shorter than the input. -/
theorem length_readPart {text : String} {c : Char} {cs rest : List Char} {part : IdentPart}
    (h : readPart text c cs = .ok (part, rest)) : rest.length < (c :: cs).length := by
  unfold readPart at h
  split at h
  · split at h
    · cases h
    · next hread =>
      split at h
      · cases h
      · obtain ⟨-, rfl⟩ := Prod.mk.inj (Except.ok.inj h)
        exact Nat.lt_succ_of_lt (Text.length_of_readEnclosed? hread)
  · dsimp only at h
    split at h
    · obtain ⟨-, rfl⟩ := Prod.mk.inj (Except.ok.inj h)
      exact Nat.lt_succ_of_le (List.dropWhile_suffix _).length_le
    · cases h

/-- The parts of a non-empty text. -/
def readParts (text : String) (c : Char) (cs : List Char) : Except IdentFault (List IdentPart) :=
  match _h : readPart text c cs with
  | .error fault => .error fault
  | .ok (part, []) => .ok [part]
  | .ok (part, '.' :: d :: rest) => (readParts text d rest).map (part :: ·)
  | .ok (_, ['.']) => .error (.trailingDot text)
  | .ok (_, _) => .error (.missingDot text)
termination_by cs.length
decreasing_by
  have hlength := length_readPart _h
  simp only [List.length_cons] at hlength
  omega

/-- Read an identifier. -/
def parse (text : String) : SqlResult Ident :=
  match text.toList with
  | [] => .error (.ident .empty)
  | c :: cs =>
    if (c :: cs).contains '\x00' then .error (.ident .nul)
    else
      match readParts text c cs with
      | .ok parts => .ok ⟨parts⟩
      | .error fault => .error (.ident fault)

/-- The identifier with a single quoted part. -/
def ofQuoted (name : String) : SqlResult Ident :=
  if name.isEmpty then .error (.ident .emptyQuoted)
  else if name.toList.contains '\x00' then .error (.ident .nul)
  else .ok ⟨[.quoted name]⟩

/-! ### Writing -/

/-- The last name: the column of a qualified reference. -/
def last (id : Ident) : String :=
  match id.parts.getLast? with
  | some part => part.name
  | none => ""

/-- The text of an identifier. -/
def toSql (id : Ident) (d : Dialect) : String :=
  ".".intercalate (id.parts.map (·.toSql d))

end Ident

end QueryLoom

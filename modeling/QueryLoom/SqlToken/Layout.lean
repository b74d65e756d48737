import QueryLoom.Config
import QueryLoom.SqlToken.Lexer

/-!
# Layout of SQL text

White space between tokens is collapsed or replaced by line breaks; the tokens stay as they are. A
line comment always ends its line. Text that has no tokens, because a quote or a comment is open,
is only trimmed.
-/

namespace QueryLoom.SqlToken

/-- The words that begin a line in the pretty layout. -/
def clauseWords : List String :=
  ["FROM", "WHERE", "GROUP", "ORDER", "HAVING", "LIMIT", "UNION", "VALUES", "SET", "INNER", "LEFT",
    "RIGHT", "ON"]

/-- Whether a word begins a clause. -/
def isClauseWord (text : List Char) : Bool :=
  clauseWords.contains (String.ofList (text.map Char.toUpper))

/-- What is known between two tokens of a layout. -/
structure Place where
  /-- Nothing stands on the current line yet. -/
  lineStart : Bool
  /-- White space has been left out since the last token. -/
  pending : Bool
  /-- How many parentheses are open. -/
  depth : Int

/-- The place before the first token. -/
def Place.first : Place := ⟨true, false, 0⟩

/-- The white space in front of a token. -/
def Place.gap (p : Place) (breaks : Bool) : List Char :=
  if p.lineStart then [] else if breaks then ['\n'] else if p.pending then [' '] else []

/-- The text of a token in a layout; a line comment ends its line. -/
def laidText : SqlToken → List Char
  | .lineComment opening body =>
    opening ++ body ++ (if body.getLast? == some '\n' then [] else ['\n'])
  | token => token.text

/-- How a token changes the depth. -/
def depthChange : SqlToken → Int
  | .openParen => 1
  | .closeParen => -1
  | _ => 0

/-- Whether a token begins a new line. -/
def breaksLine (style : FormatStyle) (depth : Int) : SqlToken → Bool
  | .word text => style == .pretty && depth == 0 && isClauseWord text
  | _ => false

/-- Lay out the tokens from a place on. -/
def layFrom (style : FormatStyle) (p : Place) : List SqlToken → List Char
  | [] => []
  | .blank :: tokens => layFrom style { p with pending := true } tokens
  | token :: tokens =>
    let written := p.gap (breaksLine style p.depth token) ++ laidText token
    let lineStart := match written.getLast? with
      | some c => c == '\n'
      | none => p.lineStart
    written ++ layFrom style ⟨lineStart, false, p.depth + depthChange token⟩ tokens

/-- Lay out a whole text. -/
def lay (style : FormatStyle) (tokens : List SqlToken) : List Char :=
  layFrom style .first tokens

/-- Check that parentheses are balanced from a depth on. -/
def checkDepth : (depth : Nat) → List SqlToken → SqlResult Unit
  | 0, [] => .ok ()
  | depth + 1, [] => .error (.sql (.unclosed (depth + 1)))
  | depth, .openParen :: tokens => checkDepth (depth + 1) tokens
  | 0, .closeParen :: _ => .error (.sql .closeWithoutOpen)
  | depth + 1, .closeParen :: tokens => checkDepth depth tokens
  | depth, _ :: tokens => checkDepth depth tokens

end QueryLoom.SqlToken

namespace QueryLoom

/-- SQL text in a layout. -/
def formatSql (sql : String) (d : Dialect) (style : FormatStyle) : String :=
  match SqlToken.ofText d sql.toList with
  | .ok tokens => String.ofList (SqlToken.lay style tokens)
  | .error _ => Text.trimmed sql

/-- Check that the parentheses, quotes and comments of SQL text are balanced. -/
def checkBalanced (sql : String) (d : Dialect) : SqlResult Unit :=
  match SqlToken.ofText d sql.toList with
  | .ok tokens => SqlToken.checkDepth 0 tokens
  | .error reason => .error (.sql (.unreadable reason))

end QueryLoom

import QueryLoom.Text.Quoted

/-!
# SQL dialects

A dialect decides how placeholders, identifiers and string literals are written, which expressions
generate keys on the server, and the shape of the statements that differ between engines.
-/

namespace QueryLoom

/-- A family of SQL engines. -/
inductive Dialect where
  /-- Question-mark placeholders and identifiers between backticks. -/
  | mysql
  /-- Numbered placeholders and identifiers between double quotes. -/
  | postgres
  /-- Question-mark placeholders and identifiers between double quotes. -/
  | sqlite
  deriving DecidableEq, Repr, Inhabited

namespace Dialect

/-- All dialects. -/
def all : List Dialect := [.mysql, .postgres, .sqlite]

/-- The name of the dialect. -/
def name : Dialect → String
  | .mysql => "mysql"
  | .postgres => "postgres"
  | .sqlite => "sqlite"

/-- The dialect of a name. -/
def ofName? : String → Option Dialect
  | "mysql" => some .mysql
  | "postgres" => some .postgres
  | "postgresql" => some .postgres
  | "pg" => some .postgres
  | "sqlite" => some .sqlite
  | _ => none

/-! ### Placeholders and quotes -/

/-- The placeholder of the bind value at a position, counted from one. -/
def placeholder : Dialect → Nat → String
  | .postgres, index => "$" ++ toString index
  | _, _ => "?"

/-- The character around quoted identifiers. -/
def identQuote : Dialect → Char
  | .mysql => '\x60'
  | _ => '"'

/-- A quoted identifier, its own quote characters doubled. -/
def quoteIdent (d : Dialect) (name : String) : String :=
  String.ofList (Text.enclosed d.identQuote name.toList)

/-- A character as it stands inside a string literal. -/
def literalChar (d : Dialect) (c : Char) : List Char :=
  if c = '\'' then ['\'', '\'']
  else if d = .mysql then
    match c with
    | '\\' => ['\\', '\\']
    | '\x00' => ['\\', '0']
    | '\x08' => ['\\', 'b']
    | '\t' => ['\\', 't']
    | '\x1a' => ['\\', 'Z']
    | '\n' => ['\\', 'n']
    | '\r' => ['\\', 'r']
    | c => [c]
  else [c]

/-- A string literal. -/
def quoteLiteral (d : Dialect) (value : String) : String :=
  String.ofList ('\'' :: value.toList.flatMap d.literalChar ++ ['\''])

/-! ### Engine expressions -/

/-- An expression that generates a UUID. -/
def uuidExpr : Dialect → String
  | .mysql => "UUID()"
  | .postgres => "gen_random_uuid()"
  | .sqlite => "lower(hex(randomblob(16)))"

/-- An expression that generates a short unique key. -/
def shortUuidExpr : Dialect → String
  | .mysql => "UUID_SHORT()"
  | .postgres => "encode(uuid_send(gen_random_uuid()::uuid),'base64')"
  | .sqlite => "abs(random())"

/-- The table that constants are selected from, where one is needed. -/
def dual? : Dialect → Option String
  | .mysql => some "DUAL"
  | _ => none

/-- The head of an insert that replaces rows with the same key, where there is one. -/
def replaceInto? : Dialect → Option String
  | .mysql => some "REPLACE INTO"
  | .sqlite => some "INSERT OR REPLACE INTO"
  | .postgres => none

/-- What follows the column list of a temporary table. -/
def tempTableSuffix : Dialect → String
  | .mysql => " ENGINE=MEMORY"
  | _ => ""

/-- The clause that selects `size` rows after the first `start`. -/
def limitClause (d : Dialect) (start size : Nat) : String :=
  match d with
  | .mysql => s!"LIMIT {start}, {size}"
  | _ => s!"LIMIT {size} OFFSET {start}"

/-- Whether indexes are declared inside the table. -/
def inlineIndexes : Dialect → Bool
  | .mysql => true
  | _ => false

end Dialect

end QueryLoom

import QueryLoom.Dialect

/-!
# Column types

The types a field may have, and what each dialect calls them.
-/

namespace QueryLoom

/-- The type of a column. -/
inductive ColumnType where
  | char
  | varchar
  | text
  | longText
  | tinyInt
  | smallInt
  | int
  | bigInt
  | float
  | double
  | decimal
  | boolean
  | date
  | dateTime
  | timestamp
  | json
  | blob
  deriving DecidableEq, Repr

namespace ColumnType

/-- A type name with its length, or the given one where none is declared. -/
def sized (name : String) (standard : Nat) (length? : Option Nat) : String :=
  s!"{name}({length?.getD standard})"

/-- A type name with its precision and scale; a scale counts only beside a precision. -/
def precise (name : String) : Option Nat → Option Nat → String
  | some precision, some scale => s!"{name}({precision}, {scale})"
  | some precision, none => s!"{name}({precision})"
  | none, _ => name

/-- The type on MySQL. -/
def mysqlText (length? scale? : Option Nat) : ColumnType → String
  | .char => sized "CHAR" 1 length?
  | .varchar => sized "VARCHAR" 255 length?
  | .text => "TEXT"
  | .longText => "LONGTEXT"
  | .tinyInt => "TINYINT"
  | .smallInt => "SMALLINT"
  | .int => "INT"
  | .bigInt => "BIGINT"
  | .float => "FLOAT"
  | .double => "DOUBLE"
  | .decimal => precise "DECIMAL" length? scale?
  | .boolean => "TINYINT(1)"
  | .date => "DATE"
  | .dateTime => "DATETIME"
  | .timestamp => "TIMESTAMP"
  | .json => "JSON"
  | .blob => "BLOB"

/-- The type on PostgreSQL. -/
def postgresText (length? scale? : Option Nat) : ColumnType → String
  | .char => sized "CHAR" 1 length?
  | .varchar => sized "VARCHAR" 255 length?
  | .text | .longText => "TEXT"
  | .tinyInt | .smallInt => "SMALLINT"
  | .int => "INTEGER"
  | .bigInt => "BIGINT"
  | .float => "REAL"
  | .double => "DOUBLE PRECISION"
  | .decimal => precise "NUMERIC" length? scale?
  | .boolean => "BOOLEAN"
  | .date => "DATE"
  | .dateTime | .timestamp => "TIMESTAMP"
  | .json => "JSONB"
  | .blob => "BYTEA"

/-- The type on SQLite, which knows storage classes only. -/
def sqliteText : ColumnType → String
  | .char | .varchar | .text | .longText | .date | .dateTime | .timestamp | .json => "TEXT"
  | .tinyInt | .smallInt | .int | .bigInt | .boolean => "INTEGER"
  | .float | .double => "REAL"
  | .decimal => "NUMERIC"
  | .blob => "BLOB"

/-- The type of a column as it stands in a table definition. -/
def ddl (t : ColumnType) (d : Dialect) (length? scale? : Option Nat) : String :=
  match d with
  | .mysql => t.mysqlText length? scale?
  | .postgres => t.postgresText length? scale?
  | .sqlite => t.sqliteText

end ColumnType

end QueryLoom

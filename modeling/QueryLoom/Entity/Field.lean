import QueryLoom.Entity.ColumnType
import QueryLoom.Ident
import QueryLoom.Json.Printer

/-!
# Fields

A field is a property of the records of an entity together with the column behind it. A declared
field becomes a field of an entity once its column has been read as a single identifier part.
-/

namespace QueryLoom

/-- Which expression generates the value of a key that an inserted record leaves open. -/
inductive KeyGenerator where
  | uuid
  | shortUuid
  deriving DecidableEq, Repr

/-- The generating expression in a dialect. -/
def KeyGenerator.expr : KeyGenerator → Dialect → String
  | .uuid, d => d.uuidExpr
  | .shortUuid, d => d.shortUuidExpr

/-- A field as it is declared. A default or deleted value that is declared as null differs from
one that is not declared. -/
structure FieldDecl where
  name : String
  column : String
  type : ColumnType
  length? : Option Nat
  scale? : Option Nat
  default? : Option Json
  nullable : Bool
  primaryKey : Bool
  indexed : Bool
  generator? : Option KeyGenerator
  deleted? : Option Json
  comment? : Option String

/-- A field of an entity: its declaration and its column. -/
structure Field extends FieldDecl where
  part : IdentPart

/-! ### Declarations -/

/-- A nullable field whose column is named like the property. -/
def FieldDecl.ofName (name : String) (type : ColumnType) : FieldDecl :=
  ⟨name, name, type, none, none, none, true, false, false, none, none, none⟩

/-- A field of the primary key, which is never null. -/
def FieldDecl.asPrimaryKey (f : FieldDecl) : FieldDecl :=
  { f with primaryKey := true, nullable := false }

/-- A default value as a literal. -/
def defaultLiteral (d : Dialect) : Json → String
  | .null => "NULL"
  | .bool b =>
    if d = .postgres then if b then "TRUE" else "FALSE"
    else if b then "1" else "0"
  | .int n => toString n
  | .float f => Json.floatText f
  | .string s => d.quoteLiteral s
  | value => d.quoteLiteral value.compact

/-- The definition of a column that is written as `column`. -/
def FieldDecl.ddlFor (f : FieldDecl) (column : String) (d : Dialect) : String :=
  column ++ " " ++ f.type.ddl d f.length? f.scale? ++
    (if f.nullable then "" else " NOT NULL") ++
    (match f.default? with
      | some value => " DEFAULT " ++ defaultLiteral d value
      | none => "") ++
    (match d, f.comment? with
      | .mysql, some comment => " COMMENT " ++ d.quoteLiteral comment
      | _, _ => "")

/-- The definition of the column of a declared field, its name as declared. -/
def FieldDecl.columnDdl (f : FieldDecl) (d : Dialect) : String := f.ddlFor f.column d

/-! ### Fields of an entity -/

namespace Field

/-- The column as it is written in a dialect. -/
def columnSql (f : Field) (d : Dialect) : String := f.part.toSql d

/-- The name of the column, without quotes. -/
def columnName (f : Field) : String := f.part.name

/-- The definition of the column. -/
def columnDdl (f : Field) (d : Dialect) : String := f.ddlFor (f.columnSql d) d

end Field

end QueryLoom

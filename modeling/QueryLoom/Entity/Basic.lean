import QueryLoom.Entity.Field
import QueryLoom.Text.Trim

/-!
# Entities

An entity is a table with its fields in declaration order. An accepted entity has at least one
field, all names and all columns differ, and at most one field marks deleted rows.
-/

namespace QueryLoom

/-- An entity as it is declared. -/
structure EntityDecl where
  table : String
  name? : Option String
  fields : List FieldDecl

/-- A table and its fields. -/
structure Entity where
  name : String
  /-- The table as declared. -/
  tableText : String
  table : Ident
  fields : List Field

/-! ### Acceptance -/

/-- A column name as it is compared with others: ASCII capitals count as small letters. -/
def columnKey (name : String) : String :=
  String.ofList (name.toList.map Char.toLower)

/-- Read the column of a declared field, given the names and column keys of the fields before. -/
def FieldDecl.accept (table : String) (names columns : List String) (f : FieldDecl) :
    SqlResult Field := do
  if f.name.isEmpty then throw (.entity (.unnamedField table))
  let id ← Ident.parse f.column
  match id.parts with
  | [part] =>
    if names.contains f.name then throw (.entity (.duplicateField f.name table))
    if columns.contains (columnKey part.name) then
      throw (.entity (.duplicateColumn f.column table))
    if f.scale?.isSome && f.length?.isNone then
      throw (.entity (.scaleWithoutLength f.name))
    return { f with part := part }
  | _ => throw (.entity (.qualifiedColumn f.column))

/-- Read the columns of the declared fields in order. -/
def acceptFields (table : String) (names columns : List String) :
    List FieldDecl → SqlResult (List Field)
  | [] => .ok []
  | decl :: decls => do
    let field ← decl.accept table names columns
    let fields ← acceptFields table (field.name :: names) (columnKey field.columnName :: columns)
      decls
    return field :: fields

/-- The entity of a declaration. -/
def EntityDecl.build (e : EntityDecl) : SqlResult Entity := do
  let table ← Ident.parse e.table
  if e.fields.isEmpty then throw (.entity (.noFields e.table))
  let fields ← acceptFields e.table [] [] e.fields
  let deletions := (fields.filter (·.deleted?.isSome)).length
  if deletions > 1 then throw (.entity (.manyLogicalDeletes e.table deletions))
  return ⟨e.name?.getD table.last, e.table, table, fields⟩

/-! ### Views -/

namespace Entity

/-- The table as it is written in a dialect. -/
def tableSql (e : Entity) (d : Dialect) : String := e.table.toSql d

/-- The last part of the table name. -/
def tableBase (e : Entity) : String := e.table.last

/-- The field of a name. -/
def field? (e : Entity) (name : String) : Option Field :=
  e.fields.find? (·.name = name)

/-- The fields of the primary key in declaration order. -/
def primaryKeys (e : Entity) : List Field :=
  e.fields.filter (·.primaryKey)

/-- Whether no field belongs to the primary key. -/
def isKeyless (e : Entity) : Bool :=
  e.primaryKeys.isEmpty

/-- The field that marks deleted rows. -/
def logicalDelete? (e : Entity) : Option Field :=
  e.fields.find? (·.deleted?.isSome)

end Entity

end QueryLoom

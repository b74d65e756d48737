import QueryLoom.Entity.Basic
import QueryLoom.Statement

/-!
# Table definitions

The statements that create the table of an entity. MySQL declares indexes inside the table; the
other dialects take one more statement for each.
-/

namespace QueryLoom

/-- The columns of some fields between commas. -/
def columnList (fields : List Field) (d : Dialect) : String :=
  ", ".intercalate (fields.map (·.columnSql d))

/-- A name for an index: everything but ASCII letters, digits and underscores is an underscore. -/
def indexName (text : String) : String :=
  String.ofList (text.toList.map fun c => if Text.isAsciiAlphanumeric c || c == '_' then c else '_')

/-- The statements that create the table of an entity. -/
def Entity.createTable (e : Entity) (d : Dialect) (temporary : Bool) : List Statement :=
  let table := e.tableSql d
  let keys := e.primaryKeys
  let indexes := e.fields.filter (·.indexed)
  let nameOf (f : Field) := indexName s!"idx_{e.tableBase}_{f.columnName}"
  let columns := e.fields.map (·.columnDdl d)
  let primary := if keys.isEmpty then [] else [s!"PRIMARY KEY ({columnList keys d})"]
  let inline :=
    if d.inlineIndexes then indexes.map fun f => s!"KEY {nameOf f} ({f.columnSql d})" else []
  let body := ", ".intercalate (columns ++ primary ++ inline)
  let kind := if temporary then "TEMPORARY " else ""
  let suffix := if temporary then d.tempTableSuffix else ""
  let create := s!"CREATE {kind}TABLE IF NOT EXISTS {table} ({body}){suffix}"
  let separate :=
    if d.inlineIndexes then []
    else indexes.map fun f =>
      s!"CREATE INDEX IF NOT EXISTS {nameOf f} ON {table} ({f.columnSql d})"
  (create :: separate).map fun sql => ⟨sql, []⟩

/-- The definition of a temporary table over some fields. On MySQL a keyed one has an index for
each column. -/
def tempTableDdl (name : String) (fields : List Field) (keyed : Bool) (d : Dialect) : String :=
  let columns := fields.map (·.columnDdl d)
  let indexes :=
    if keyed && d.inlineIndexes then
      fields.map fun f => "KEY " ++ indexName s!"idx_{f.columnName}" ++ s!" ({f.columnSql d})"
    else []
  let body := ", ".intercalate (columns ++ indexes)
  s!"CREATE TEMPORARY TABLE IF NOT EXISTS {name} ({body}){d.tempTableSuffix}"

end QueryLoom

import QueryLoom.Batch.Step

/-!
# Staged rows

Large sets of rows are put into a temporary table first. Its name is that of the entity's table
with a suffix that the caller supplies; the suffixes of one call must differ.
-/

namespace QueryLoom.Batch

/-- The suffixes of temporary tables, by position. -/
abbrev Suffixes := Nat → String

/-- The name of a temporary table; a table whose name is no plain word lends none. -/
def tempName (e : Entity) (suffix : String) : String :=
  let base := if Ident.isPlain e.tableBase.toList then e.tableBase else "tmp"
  s!"{base}_{suffix}"

/-- Whether a record has values for exactly the given fields. -/
def hasExactly (fields : List Field) (record : Record) : Bool :=
  record.length == fields.length && fields.all fun f => record.has f.name

/-- The row of a record in a temporary table. -/
def stagedRow (fields : List Field) (record : Record) : List Cell :=
  (matchesOf fields record).map fun m => .value m.value

/-- Create a temporary table and fill it with the values of the records, in pieces of `size`
records. All records must have the same fields. -/
def stage (temp : String) (fields : List Field) (records : List Record) (size : Nat) :
    SqlResult (List Step) :=
  match records.find? fun r => !hasExactly fields r with
  | some odd => .error (.batch (.differentFields (Text.shownList odd.keys)))
  | none =>
    .ok (.dropTemp temp :: .createTemp temp fields true ::
      (chunks size records).map fun chunk => .fillTemp temp fields (chunk.map (stagedRow fields)))

end QueryLoom.Batch

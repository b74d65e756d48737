import QueryLoom.Batch.Staging
import QueryLoom.Event

/-!
# Inserting records

Records are inserted in chunks. The columns of a chunk are those of the fields that take part in
one of its records; a record without a value for such a column gets the declared default or null.
-/

namespace QueryLoom

/-- How records are inserted. -/
inductive InsertMode where
  /-- One statement for each chunk. -/
  | insert
  /-- Through a temporary table for each chunk. -/
  | tempTable
  /-- Each record unless a row has its values in the existence fields. -/
  | ifNotExists
  /-- Replacing rows with the same primary key. -/
  | replace
  deriving DecidableEq

/-- The name of an insert mode. -/
def InsertMode.name : InsertMode → String
  | .insert => "Insert"
  | .tempTable => "TempTable"
  | .ifNotExists => "IfNotExists"
  | .replace => "Replace"

namespace Batch

/-- The fields that take part in one of the records, in declaration order. -/
def insertedFields (e : Entity) (policy : SkipPolicy) (records : List Record) : List Field :=
  e.fields.filter fun f => records.any fun r => (insertedValue? policy r f).isSome

/-- The value a record gets in a column. -/
def insertedCell (policy : SkipPolicy) (record : Record) (f : Field) : Cell :=
  let value := (insertedValue? policy record f).getD (f.default?.getD .null)
  match f.generator? with
  | some g => if value.isNull then .generated g else .value value
  | none => .value value

/-- The row of a record. -/
def insertedRow (policy : SkipPolicy) (columns : List Field) (record : Record) : List Cell :=
  columns.map (insertedCell policy record)

/-- The fields an existence check looks at: the named ones, or the primary key. -/
def existenceFields (e : Entity) (names? : Option (List String)) : SqlResult (List Field) := do
  let fields ← match names? with
    | none => pure e.primaryKeys
    | some names => names.mapM fun n =>
      match e.field? n with
      | some f => Except.ok f
      | none => Except.error (.batch (.unknownExistenceField n e.name))
  if fields.isEmpty then throw (.batch (.noExistenceField e.name))
  return fields

/-- The value an existence check compares a field with; there must be one. -/
def existenceMatch (e : Entity) (policy : SkipPolicy) (record : Record) (f : Field) :
    SqlResult Match :=
  let value? := (insertedValue? policy record f).filter fun v => !v.isNull
  match value?.or f.default? with
  | some value => .ok ⟨f, value⟩
  | none => .error (.batch (.noExistenceValue e.name f.name))

/-- The steps that insert one chunk. `temp` names its temporary table. -/
def insertChunk (e : Entity) (mode : InsertMode) (checked : List Field) (policy : SkipPolicy)
    (temp : String) (records : List Record) : SqlResult (List Step) := do
  let columns := insertedFields e policy records
  if columns.isEmpty then throw (.batch (.noInsertedField e.name))
  let rows := records.map (insertedRow policy columns)
  match mode with
  | .insert => return [.insert e columns rows]
  | .replace => return [.replace e columns rows]
  | .ifNotExists =>
    let checks ← records.mapM fun r => checked.mapM (existenceMatch e policy r)
    return [.insertAbsent e columns (rows.zip checks)]
  | .tempTable =>
    return [.dropTemp temp, .createTemp temp columns false, .fillTemp temp columns rows,
      .insertStaged e columns temp, .dropTemp temp]

/-- The steps of all chunks; `index` counts them. -/
def insertChunks (e : Entity) (mode : InsertMode) (checked : List Field) (policy : SkipPolicy)
    (suffixes : Suffixes) (index : Nat) : List (List Record) → SqlResult (List Step)
  | [] => .ok []
  | chunk :: rest => do
    let steps ← insertChunk e mode checked policy (tempName e (suffixes index)) chunk
    let more ← insertChunks e mode checked policy suffixes (index + 1) rest
    return steps ++ more

/-- The plan that inserts records. -/
def insertPlan (e : Entity) (records : List Record) (mode : InsertMode)
    (existence? : Option (List String)) (config : Config) (suffixes : Suffixes) :
    SqlResult (List Step) := do
  config.validate
  if records.isEmpty then return []
  let checked ← if mode = .ifNotExists then existenceFields e existence? else pure []
  if mode = .replace && config.dialect.replaceInto?.isNone && e.isKeyless then
    throw (.batch (.replaceNeedsKey config.dialect.name e.name))
  insertChunks e mode checked config.skip suffixes 0 (chunks config.maxDeal records)

/-- The statements that insert records. -/
def insert (e : Entity) (records : List Record) (mode : InsertMode)
    (existence? : Option (List String)) (config : Config) (suffixes : Suffixes) :
    Logged (SqlResult (List Statement)) :=
  match insertPlan e records mode existence? config suffixes with
  | .error err => ⟨.error err, []⟩
  | .ok steps =>
    ⟨.ok (steps.map (Step.build config.dialect)),
      if records.isEmpty then []
      else [.insertBuilt e.name mode.name records.length steps.length]⟩

end Batch

end QueryLoom

import QueryLoom.Batch.Step
import QueryLoom.Event

/-!
# Updating records

Records are updated by primary key in chunks. A column that changes in one of the records of a
chunk is assigned by cases; only rows with a change are addressed.
-/

namespace QueryLoom.Batch

/-- What an update changes in one row. -/
structure Change where
  key : List Match
  sets : List Match

/-- The value of a key field, which must be given. -/
def keyMatch (e : Entity) (record : Record) (f : Field) : SqlResult Match :=
  let value? := record.get? f.name
  if isGiven value? then .ok ⟨f, value?.getD .null⟩
  else .error (.batch (.updateWithoutKey e.name f.name))

/-- The change a record asks for. -/
def Change.ofRecord (e : Entity) (policy : SkipPolicy) (record : Record) : SqlResult Change := do
  let key ← e.primaryKeys.mapM (keyMatch e record)
  let sets := (e.fields.filter fun f => !f.primaryKey).filterMap fun f =>
    (changedValue? policy record f).map (Match.mk f)
  return ⟨key, sets⟩

/-- The value a change sets a field to. -/
def Change.valueOf? (c : Change) (f : Field) : Option Json :=
  (c.sets.find? (·.field.name = f.name)).map (·.value)

/-- How a column is assigned by some changes. -/
def assignmentOf (changes : List Change) (f : Field) : Assignment :=
  ⟨f, changes.filterMap fun c => (c.valueOf? f).map fun value => (c.key, value)⟩

/-- The steps that update one chunk; there is none if nothing changes. -/
def updateChunk (e : Entity) (policy : SkipPolicy) (records : List Record) :
    SqlResult (List Step) := do
  let all ← records.mapM (Change.ofRecord e policy)
  let changes := all.filter fun c => !c.sets.isEmpty
  if changes.isEmpty then return []
  let columns := e.fields.filter fun f => changes.any fun c => (c.valueOf? f).isSome
  return [.update e (columns.map (assignmentOf changes)) (changes.map (·.key))]

/-- The plan that updates records. -/
def updatePlan (e : Entity) (records : List Record) (config : Config) :
    SqlResult (List Step) := do
  config.validate
  if e.isKeyless then throw (.batch (.updateNeedsKey e.name))
  let steps ← (chunks config.maxDeal records).mapM (updateChunk e config.skip)
  return steps.flatten

/-- The statements that update records. -/
def update (e : Entity) (records : List Record) (config : Config) :
    Logged (SqlResult (List Statement)) :=
  match updatePlan e records config with
  | .error err => ⟨.error err, []⟩
  | .ok steps =>
    ⟨.ok (steps.map (Step.build config.dialect)),
      [.updateBuilt e.name records.length steps.length]⟩

end QueryLoom.Batch

import QueryLoom.Batch.Staging
import QueryLoom.Binding
import QueryLoom.Event

/-!
# Deleting records

The addressed rows are removed, or marked where the entity has a field that marks deleted rows and
removal is not forced. Nothing addressed means no statement; an empty predicate, which would
address every row, is refused.
-/

namespace QueryLoom

/-- How addressed rows are matched. -/
inductive MatchMode where
  /-- In one statement with a group of conditions for each record. -/
  | common
  /-- By joining a temporary table. -/
  | tempTable
  deriving DecidableEq

/-- The name of a match mode. -/
def MatchMode.name : MatchMode → String
  | .common => "Common"
  | .tempTable => "TempTable"

namespace Batch

/-- The mark that a delete sets, unless it removes the rows. -/
def markOf? (e : Entity) (force : Bool) : Option Mark :=
  if force then none
  else e.logicalDelete?.map fun f => ⟨f, f.deleted?.getD .null⟩

/-- The conditions of a record. -/
def predicateGroup (e : Entity) (record : Record) : SqlResult (List Match) :=
  (predicateFields e record).map fun fields => matchesOf fields record

/-- The steps that delete the rows of some records. -/
def deleteRecords (e : Entity) (mark? : Option Mark) (mode : MatchMode) (size : Nat)
    (temp : String) (first : Record) (others : List Record) : SqlResult (List Step) :=
  match mode with
  | .common => do
    let groups ← (first :: others).mapM (predicateGroup e)
    return [.delete e mark? groups]
  | .tempTable => do
    let fields ← predicateFields e first
    let staged ← stage temp fields (first :: others) size
    return staged ++ [.deleteStaged e mark? fields temp, .dropTemp temp]

/-- The plan that deletes the rows of a target. -/
def deletePlan (e : Entity) (target : Target) (mode : MatchMode) (force : Bool) (config : Config)
    (suffixes : Suffixes) : SqlResult (List Step) := do
  config.validate
  let mark? := markOf? e force
  match target with
  | .raw sql params =>
    if Text.isBlankText sql then throw (.batch .emptyDeletePredicate)
    return [.deleteWhere e mark? (← Binding.bindSql sql params config.dialect)]
  | target =>
    match ← targetRecords e target with
    | [] => return []
    | first :: others =>
      deleteRecords e mark? mode config.maxDeal (tempName e (suffixes 0)) first others

/-- Whether a target is a predicate in SQL. -/
def isRaw : Target → Bool
  | .raw _ _ => true
  | _ => false

/-- The statements that delete the rows of a target. -/
def delete (e : Entity) (target : Target) (mode : MatchMode) (force : Bool) (config : Config)
    (suffixes : Suffixes) : Logged (SqlResult (List Statement)) :=
  match deletePlan e target mode force config suffixes with
  | .error err => ⟨.error err, []⟩
  | .ok steps =>
    ⟨.ok (steps.map (Step.build config.dialect)),
      if isRaw target || steps.isEmpty then []
      else [.deleteBuilt e.name mode.name (markOf? e force).isSome steps.length]⟩

end Batch

end QueryLoom

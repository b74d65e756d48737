import QueryLoom.Batch.Delete

/-!
# Selecting records

Rows are selected by keys, by records of values, or by a predicate. The values of a record go
through the skip policy: one that is left out does not constrain the rows, and a null that is kept
asks for null.
-/

namespace QueryLoom

/-- A plan of steps one of which returns the selected rows. -/
structure SelectPlan where
  steps : List Step
  /-- The position of the step that returns rows. -/
  queryStep : Nat

namespace Batch

/-- The fields of a name list, or all fields. -/
def selectedFields (e : Entity) (names? : Option (List String)) : SqlResult (List Field) := do
  let fields ← match names? with
    | none => pure e.fields
    | some names => names.mapM fun n =>
      match e.field? n with
      | some f => Except.ok f
      | none => Except.error (.batch (.unknownColumn n e.name))
  if fields.isEmpty then throw (.batch .noSelectedColumn)
  return fields

/-- The conditions of a record after the skip policy; there must be one. -/
def constrained (e : Entity) (policy : SkipPolicy) (record : Record) : SqlResult (List Match) :=
  match unknownName? e record with
  | some name => .error (.batch (.unknownField name e.name))
  | none =>
    let kept := e.fields.filterMap fun f => (changedValue? policy record f).map (Match.mk f)
    if kept.isEmpty then .error (.batch .selectWithoutConstraint) else .ok kept

/-- Conditions as the record they came from. -/
def recordOf (group : List Match) : Record :=
  KeyMap.ofEntries (group.map fun m => (m.field.name, m.value))

/-- The plan that selects the rows of some groups of conditions. -/
def selectGroups (e : Entity) (selection : Selection) (mode : MatchMode) (size : Nat)
    (temp : String) (first : List Match) (others : List (List Match)) : SqlResult SelectPlan :=
  match mode with
  | .common => .ok ⟨[.select e selection (first :: others)], 0⟩
  | .tempTable => do
    let fields := first.map (·.field)
    let staged ← stage temp fields ((first :: others).map recordOf) size
    return ⟨staged ++ [.selectStaged e selection fields temp, .dropTemp temp], staged.length⟩

/-- The plan that selects the rows of a target. -/
def selectPlan (e : Entity) (target : Target) (mode : MatchMode) (count : Bool)
    (names? : Option (List String)) (config : Config) (suffixes : Suffixes) :
    SqlResult SelectPlan := do
  config.validate
  let selection ← if count then pure Selection.count
    else (selectedFields e names?).map Selection.fields
  match target with
  | .raw sql params =>
    if Text.isBlankText sql then throw (.batch .emptySelectPredicate)
    return ⟨[.selectWhere e selection (← Binding.bindSql sql params config.dialect)], 0⟩
  | target =>
    let groups ← (← targetRecords e target).mapM (constrained e config.skip)
    match groups with
    | [] => throw (.batch (.emptySelectTarget e.name))
    | first :: others =>
      selectGroups e selection mode config.maxDeal (tempName e (suffixes 0)) first others

/-- The statements that select the rows of a target, and the position of the one that returns
them. -/
def select (e : Entity) (target : Target) (mode : MatchMode) (count : Bool)
    (names? : Option (List String)) (config : Config) (suffixes : Suffixes) :
    Logged (SqlResult (List Statement × Nat)) :=
  match selectPlan e target mode count names? config suffixes with
  | .error err => ⟨.error err, []⟩
  | .ok plan =>
    ⟨.ok (plan.steps.map (Step.build config.dialect), plan.queryStep),
      if isRaw target then [] else [.selectBuilt e.name mode.name plan.steps.length]⟩

end Batch

end QueryLoom

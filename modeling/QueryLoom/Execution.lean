import QueryLoom.Event
import QueryLoom.Statement

/-!
# Running statements

The statements of a plan are run one after the other, up to the first that fails. What runs them is
a parameter: it may change a state of its own, and reports the outcome of each statement.
-/

namespace QueryLoom

/-- A row of a result, by column. -/
abbrev Row := KeyMap Json

/-- What a statement without rows reports. -/
structure Outcome where
  affectedRows : Nat
  /-- The key that was generated last, if the statement reports one. -/
  insertId? : Option Json

/-- What runs statements, with a state it may change. -/
structure Executor (σ : Type) where
  /-- Run a statement that gives no rows. -/
  run : Statement → StateM σ (SqlResult Outcome)
  /-- Run a statement for its rows. -/
  query : Statement → StateM σ (SqlResult (List Row))

/-- A run of statements. What an executor did before an error remains done. -/
abbrev Execution (σ : Type) := ExceptT SqlError (StateT σ Logged)

namespace Execution

variable {σ α : Type}

/-- How many bytes of a failed statement are logged. -/
def loggedBytes : Nat := 256

/-- Take the step of a plan at a position; a failure is recorded. -/
def attempt (position : Nat) (s : Statement) (step : StateM σ (SqlResult α)) :
    Execution σ α := do
  let (result, state) := step.run (← get)
  set state
  match result with
  | .ok a => return a
  | .error e =>
    Logged.record (.stepFailed position (Event.clipped loggedBytes s.sql) e)
    throw e

/-- Run statements, the first of which is at a position. -/
def runFrom (x : Executor σ) : (position : Nat) → List Statement → Execution σ (List Outcome)
  | _, [] => return []
  | position, s :: ss => do
    let outcome ← attempt position s (x.run s)
    return outcome :: (← runFrom x (position + 1) ss)

/-- Run all statements. -/
def runAll (x : Executor σ) (ss : List Statement) : Execution σ (List Outcome) :=
  runFrom x 0 ss

/-- Run statements, the first of which is at a position; the one at `queryStep` is asked for its
rows, which take the place of `rows`. -/
def queryFrom (x : Executor σ) (queryStep : Nat) (rows : List Row) :
    (position : Nat) → List Statement → Execution σ (List Row)
  | _, [] => return rows
  | position, s :: ss =>
    if position = queryStep then do
      let rows ← attempt position s (x.query s)
      queryFrom x queryStep rows (position + 1) ss
    else do
      let _ ← attempt position s (x.run s)
      queryFrom x queryStep rows (position + 1) ss

/-- Run the statements of a selection, one of which gives the rows. -/
def queryAll (x : Executor σ) (ss : List Statement) (queryStep : Nat) :
    Execution σ (List Row) :=
  queryFrom x queryStep [] 0 ss

/-- The state after a run, also after an error, with the result and the events. -/
def apply (e : Execution σ α) (state : σ) : σ × Logged (SqlResult α) :=
  let l := (e.run.run state : Logged (SqlResult α × σ))
  (l.value.2, ⟨l.value.1, l.events⟩)

end Execution

end QueryLoom

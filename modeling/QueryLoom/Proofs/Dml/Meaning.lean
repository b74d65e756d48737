import Mathlib.Logic.Function.Basic
import QueryLoom.Proofs.Dml.Accepted

/-!
# What statements do

Statements act on tables whose rows give a value to every column. Conditions are judged in
three-valued logic: a comparison with null is unknown, and only what is certain is acted upon. When
two values that are not null are equal is left to the engine.
-/

namespace QueryLoom

/-- The value of a cell that is not generated. -/
def Cell.value? : Cell → Option Json
  | .value v => some v
  | .generated _ => none

namespace Dml

/-! ### Three-valued logic -/

/-- What is known of a condition. -/
inductive Truth where
  | no
  | unknown
  | yes
  deriving DecidableEq

namespace Truth

/-- What is known for certain. -/
def ofBool (b : Bool) : Truth := if b then .yes else .no

/-- Conjunction. -/
def and : Truth → Truth → Truth
  | .no, _ | _, .no => .no
  | .yes, .yes => .yes
  | _, _ => .unknown

/-- Disjunction. -/
def or : Truth → Truth → Truth
  | .yes, _ | _, .yes => .yes
  | .no, .no => .no
  | _, _ => .unknown

/-- The conjunction of a list. -/
def all (ts : List Truth) : Truth := ts.foldr and .yes

/-- The disjunction of a list. -/
def any (ts : List Truth) : Truth := ts.foldr or .no

@[simp] lemma ofBool_eq_yes {b : Bool} : ofBool b = .yes ↔ b = true := by
  cases b <;> simp [ofBool]

@[simp] lemma and_eq_yes {s t : Truth} : and s t = .yes ↔ s = .yes ∧ t = .yes := by
  cases s <;> cases t <;> simp [and]

@[simp] lemma or_eq_yes {s t : Truth} : or s t = .yes ↔ s = .yes ∨ t = .yes := by
  cases s <;> cases t <;> simp [or]

lemma all_eq_yes {ts : List Truth} : all ts = .yes ↔ ∀ t ∈ ts, t = .yes := by
  induction ts with
  | nil => simp [all]
  | cons t ts ih =>
    rw [all] at ih
    simp [all, ih]

lemma any_eq_yes {ts : List Truth} : any ts = .yes ↔ .yes ∈ ts := by
  induction ts with
  | nil => simp [any]
  | cons t ts ih =>
    rw [any] at ih
    rw [any, List.foldr_cons, or_eq_yes, ih, List.mem_cons, eq_comm]

end Truth

/-! ### Names and rows -/

/-- The name of a column as the engine compares it: PostgreSQL keeps the case of quoted names. -/
def columnName : Dialect → IdentPart → String
  | .postgres, .quoted name => name
  | _, p => columnKey p.name

lemma columnKey_columnName (d : Dialect) (p : IdentPart) :
    columnKey (columnName d p) = columnKey p.name := by
  unfold columnName
  split
  · rfl
  · exact columnKey_columnKey _

lemma eq_of_columnName {d : Dialect} {e : Entity} (he : Accepted e) {f g : Field}
    (hf : f ∈ e.fields) (hg : g ∈ e.fields)
    (h : columnName d f.part = columnName d g.part) : f = g := by
  refine List.inj_on_of_nodup_map he.columns_nodup hf hg ?_
  have hkey := congrArg columnKey h
  rwa [columnKey_columnName, columnKey_columnName] at hkey

/-- A row: the value of every column. -/
abbrev TableRow := String → Json

/-- The rows of the temporary tables that exist. -/
abbrev Temps := IdentPart → Option (List TableRow)

/-- The rows of all tables. -/
structure Store where
  tables : List IdentPart → List TableRow
  temps : Temps

/-- What matters of an engine: its dialect, and when values that are not null are equal. -/
structure Engine where
  dialect : Dialect
  equal : Json → Json → Bool

namespace Engine

variable (g : Engine)

/-! ### Conditions -/

/-- Whether two values are equal; unknown if one of them is null. -/
def compare (a b : Json) : Truth :=
  if a.isNull || b.isNull then .unknown else .ofBool (g.equal a b)

/-- Whether two values are equal, two nulls included. -/
def compareNulls (a b : Json) : Truth :=
  if a.isNull || b.isNull then .ofBool (a.isNull && b.isNull) else .ofBool (g.equal a b)

/-- The value of a column. -/
def valueOf (row : TableRow) (p : IdentPart) : Json := row (columnName g.dialect p)

/-- What is known of a test on a row, beside the row it is joined with. -/
def truth (row : TableRow) (joined? : Option TableRow) : Test → Truth
  | .equal c v => g.compare (g.valueOf row c.column) v
  | .isNull c => .ofBool (g.valueOf row c.column).isNull
  | .among c vs => .any (vs.map (g.compare (g.valueOf row c.column)))
  | .same c p =>
    match joined? with
    | some joined => g.compareNulls (g.valueOf row c.column) (g.valueOf joined p)
    | none => .unknown

/-- One of the ways for a row to be addressed: it passes tests, maybe beside a joined row. -/
structure Alternative where
  tests : List Test
  joined? : Option TableRow

/-- What is known of an alternative. -/
def alternative (row : TableRow) (a : Alternative) : Truth :=
  .all (a.tests.map (g.truth row a.joined?))

/-- The alternatives of a scope: its groups, or the rows of its temporary table. -/
def alternatives (temps : Temps) : Scope → Option (List Alternative)
  | .groups groups => some (groups.map fun tests => ⟨tests, none⟩)
  | .joined temp on => (temps temp).map fun rows => rows.map fun r => ⟨on, some r⟩

/-- How many of some alternatives certainly hold. -/
def hits (row : TableRow) (as : List Alternative) : Nat :=
  as.countP fun a => g.alternative row a = .yes

/-- Whether one of some alternatives certainly holds. -/
def addressed (row : TableRow) (as : List Alternative) : Bool :=
  Truth.any (as.map (g.alternative row)) = .yes

/-! ### Changes -/

/-- The value a column is set to. -/
def newValue (row : TableRow) : NewValue → Json
  | .value v => v
  | .cases arms otherwise =>
    match arms.find? fun arm => g.alternative row ⟨arm.1, none⟩ = .yes with
    | some arm => arm.2
    | none => g.valueOf row otherwise

/-- A row after its columns have been set, all at once. -/
def assign (settings : List Setting) (row : TableRow) : TableRow := fun c =>
  match settings.find? fun s => columnName g.dialect s.column = c with
  | some s => g.newValue row s.value
  | none => row c

/-- What becomes of an addressed row. -/
def act (row : TableRow) : Action → Option TableRow
  | .remove => none
  | .set settings => some (g.assign settings row)

/-- What becomes of a row. -/
def change (action : Action) (as : List Alternative) (row : TableRow) : Option TableRow :=
  if g.addressed row as then g.act row action else some row

/-- The row that has given values in some columns, and null elsewhere. -/
def rowOf (columns : List IdentPart) (values : List Json) : TableRow := fun c =>
  match (columns.zip values).find? fun x => columnName g.dialect x.1 = c with
  | some x => x.2
  | none => .null

/-- Run a statement. Rows are inserted into temporary tables only: what becomes of columns that an
insert leaves out is not known of other tables, nor is a value that the engine generates. -/
def run (s : Store) : Command → Option Store
  | .change action table scope => do
    let as ← alternatives s.temps scope
    let rows := (s.tables table).filterMap (g.change action as)
    return { s with tables := Function.update s.tables table rows }
  | .query _ => some s
  | .create temp => some { s with temps := Function.update s.temps temp (s.temps temp <|> some []) }
  | .drop temp => some { s with temps := Function.update s.temps temp none }
  | .insert false [temp] columns rows none => do
    let staged ← s.temps temp
    let values ← rows.mapM fun row => row.mapM Cell.value?
    let new := values.map (g.rowOf columns)
    return { s with temps := Function.update s.temps temp (some (staged ++ new)) }
  | _ => none

/-- Run statements one after the other. -/
def runAll (cs : List Command) (s : Store) : Option Store := cs.foldlM g.run s

/-- Read statements and run them one after the other. -/
def runStatements (statements : List Statement) (s : Store) : Option Store := do
  g.runAll (← statements.mapM (readStatement g.dialect)) s

lemma runAll_append (cs cs' : List Command) (s : Store) :
    g.runAll (cs ++ cs') s = (g.runAll cs s).bind (g.runAll cs') := by
  rw [runAll, List.foldlM_append]
  rfl

end Engine

/-- A store whose rows of one table have been changed. -/
def Store.mapRows (s : Store) (table : List IdentPart) (f : TableRow → TableRow) : Store :=
  { s with tables := Function.update s.tables table ((s.tables table).map f) }

lemma Store.mapRows_id (s : Store) (table : List IdentPart) : s.mapRows table id = s := by
  simp [mapRows]

lemma Store.mapRows_mapRows (s : Store) (table : List IdentPart) (f f' : TableRow → TableRow) :
    (s.mapRows table f).mapRows table f' = s.mapRows table (f' ∘ f) := by
  simp [mapRows]

/-- A store with some rows in a temporary table. -/
def Store.withTemp (s : Store) (temp : IdentPart) (rows : List TableRow) : Store :=
  { s with temps := Function.update s.temps temp (some rows) }

lemma Store.temps_withTemp (s : Store) (temp : IdentPart) (rows : List TableRow) :
    (s.withTemp temp rows).temps temp = some rows :=
  Function.update_self ..

lemma Store.withTemp_withTemp (s : Store) (temp : IdentPart) (rows rows' : List TableRow) :
    (s.withTemp temp rows).withTemp temp rows' = s.withTemp temp rows' := by
  simp [withTemp]

/-! ### Rows that are written -/

/-- A row as it is written: the listed columns with their cells. -/
structure Tuple where
  columns : List IdentPart
  cells : List Cell

/-- An item that is written out. -/
def Item.cell? : Item → Option Cell
  | .cell c => some c
  | .column _ => none

/-- The rows that a statement writes out. -/
def Command.written : Command → List Tuple
  | .insert _ _ columns rows _ => rows.map fun cells => ⟨columns, cells⟩
  | .insertSelected _ columns branches => branches.filterMap fun b =>
    (b.items.mapM Item.cell?).map fun cells => ⟨columns, cells⟩
  | _ => []

end Dml

end QueryLoom

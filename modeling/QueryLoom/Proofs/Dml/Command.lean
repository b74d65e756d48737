import QueryLoom.Batch.Step
import QueryLoom.Proofs.Dml.ReadsAs

/-!
# Statements as trees

What a statement says, apart from how a dialect spells it: which rows of which table are changed,
removed, selected or inserted, with the values in place of their placeholders. The grammar covers
the statements that the steps of a plan are written as.
-/

namespace QueryLoom.Dml

/-! ### Trees -/

/-- A column, and what stands before its last dot. -/
structure ColumnRef where
  owner : List IdentPart
  column : IdentPart

/-- A condition on a row. -/
inductive Test where
  | equal (c : ColumnRef) (v : Json)
  | isNull (c : ColumnRef)
  | among (c : ColumnRef) (vs : List Json)
  /-- The column equals, nulls included, a column of the row it is joined with. -/
  | same (c : ColumnRef) (staged : IdentPart)

/-- What a column is set to. -/
inductive NewValue where
  | value (v : Json)
  /-- The value of the first arm whose tests all hold, or else that of a column. -/
  | cases (arms : List (List Test × Json)) (otherwise : IdentPart)

/-- A column is set to a value. -/
structure Setting where
  column : IdentPart
  value : NewValue

/-- Which rows of a table. -/
inductive Scope where
  /-- Those that pass all tests of one of the groups. -/
  | groups (groups : List (List Test))
  /-- Those that pass the tests beside a row of a temporary table. -/
  | joined (temp : IdentPart) (on : List Test)

/-- What happens to rows. -/
inductive Action where
  | remove
  | set (settings : List Setting)

/-- Rows that are asked for. A column comes with its alias; no columns mean that rows are
counted. -/
structure Query where
  columns? : Option (List (IdentPart × Option IdentPart))
  table : List IdentPart
  scope : Scope

/-- An item of a selected row: a value, or a column of the source. -/
inductive Item where
  | cell (c : Cell)
  | column (p : IdentPart)

/-- A selection whose row is inserted, unless a table has rows that pass some tests. -/
structure Branch where
  items : List Item
  source? : Option IdentPart
  unless? : Option (List IdentPart × List Test)

/-- What happens to the columns of a row whose key is taken: the columns of the key, and those
that take the new value. -/
structure Conflict where
  keys : List IdentPart
  updated : List IdentPart

/-- A statement. -/
inductive Command where
  | change (action : Action) (table : List IdentPart) (scope : Scope)
  | query (queries : List Query)
  | insert (replaces : Bool) (table columns : List IdentPart) (rows : List (List Cell))
    (conflict? : Option Conflict)
  | insertSelected (table columns : List IdentPart) (branches : List Branch)
  | create (temp : IdentPart)
  | drop (temp : IdentPart)

/-! ### Conditions -/

/-- Read an identifier. -/
def path : Reader (List IdentPart) := separated "." part

/-- Read a reference to a column. -/
def columnRef : Reader ColumnRef := do
  let parts ← path
  match parts.getLast? with
  | some column => return ⟨parts.dropLast, column⟩
  | none => failure

/-- Read what is asked of a column. -/
def testOf (c : ColumnRef) : Reader Test :=
  choose [
    (" = ", return .equal c (← placeholder)),
    (" IS NULL", return .isNull c),
    (" IN (", do
      let vs ← separated ", " placeholder
      exactly ")"
      return .among c vs),
    (" <=> b.", return .same c (← part)),
    (" IS NOT DISTINCT FROM b.", return .same c (← part)),
    (" IS b.", return .same c (← part))] failure

/-- Read a condition on a column. -/
def test : Reader Test := do
  let c ← columnRef
  testOf c

/-- Read conditions that must all hold. -/
def tests : Reader (List Test) := separated " AND " test

/-- Read conditions in parentheses. -/
def group : Reader (List Test) := do
  exactly "("
  let ts ← tests
  exactly ")"
  return ts

/-- Read a temporary table and the conditions of the join with it, which follow `keyword`. -/
def joinedBy (keyword : String) : Reader Scope := do
  let temp ← part
  exactly keyword
  let on ← tests
  return .joined temp on

/-- Read which rows are addressed: groups in parentheses, a single condition, or the existence of
a joined row. -/
def scope : Reader Scope := do
  if ← ahead "(" then
    let groups ← separated " OR " group
    return .groups groups
  else
    let c ← columnRef
    choose [(" (SELECT 1 FROM ", do
      if c.column = .plain "EXISTS" then
        let s ← joinedBy " b WHERE "
        exactly ")"
        return s
      else failure)] (return .groups [[← testOf c]])

/-! ### Changed and removed rows -/

/-- Read an arm of a case distinction. -/
def arm : Reader (List Test × Json) := do
  let key ← tests
  exactly " THEN "
  let v ← placeholder
  return (key, v)

/-- Read what a column is set to. -/
def setting : Reader Setting := do
  let column ← part
  choose [(" = CASE", do
    let arms ← many " WHEN " arm
    exactly " ELSE "
    let otherwise ← part
    exactly " END"
    return ⟨column, .cases arms otherwise⟩)] (do
    exactly " = "
    let v ← placeholder
    return ⟨column, .value v⟩)

/-- Read an update. -/
def update : Reader Command := do
  exactly "UPDATE "
  let table ← path
  choose [
    (" SET ", do
      let settings ← separated ", " setting
      exactly " WHERE "
      let s ← scope
      return .change (.set settings) table s),
    (" a INNER JOIN ", do
      let s ← joinedBy " b ON "
      exactly " SET a."
      let change ← setting
      return .change (.set [change]) table s),
    (" a SET ", do
      let change ← setting
      exactly " FROM "
      let s ← joinedBy " b WHERE "
      return .change (.set [change]) table s)] failure

/-- Read a delete. -/
def delete : Reader Command := do
  exactly "DELETE "
  choose [
    ("FROM ", do
      let table ← path
      choose [
        (" WHERE ", return .change .remove table (← scope)),
        (" a USING ", return .change .remove table (← joinedBy " b WHERE "))] failure),
    ("a.* FROM ", do
      let table ← path
      exactly " a INNER JOIN "
      let s ← joinedBy " b ON "
      return .change .remove table s)] failure

/-! ### Selected rows -/

/-- Read a selected column with its alias. -/
def selectedItem : Reader (IdentPart × Option IdentPart) := do
  exactly "a."
  let column ← part
  choose [(" AS ", return (column, some (← part)))] (return (column, none))

/-- Read one selection. -/
def query : Reader Query := do
  exactly "SELECT "
  let columns? ← choose [("COUNT(1) ct", return none)] (return some (← separated ", " selectedItem))
  exactly " FROM "
  let table ← path
  let s ← choose [
    (" a WHERE ", return .groups [← tests]),
    (" a INNER JOIN ", joinedBy " b ON ")] failure
  return ⟨columns?, table, s⟩

/-! ### Inserted rows -/

/-- The generator that is called by a name with arguments. -/
def generatorOf? (d : Dialect) (name arguments : String) : Option KeyGenerator :=
  [.uuid, .shortUuid].find? fun g => g.expr d = name ++ arguments

/-- The arguments of the generators. -/
def generatorArguments : List String :=
  ["()", "(uuid_send(gen_random_uuid()::uuid),'base64')", "(hex(randomblob(16)))", "(random())"]

/-- The dialect of the statement. -/
def dialect : Reader Dialect := return (← read).dialect

/-- Read an item of an inserted row: a placeholder, a call of a generator, or a column. -/
def item : Reader Item := do
  if (← ahead "?") || (← ahead "$") then return .cell (.value (← placeholder))
  else
    let p ← part
    let d ← dialect
    choose (generatorArguments.map fun arguments => (arguments,
      match generatorOf? d p.name arguments with
      | some g => return .cell (.generated g)
      | none => failure)) (return .column p)

/-- Read a value of an inserted row. -/
def cell : Reader Cell := do
  match ← item with
  | .cell c => return c
  | .column _ => failure

/-- Read the values of a row. -/
def row : Reader (List Cell) := do
  exactly "("
  let cells ← separated ", " cell
  exactly ")"
  return cells

/-- Read a column that takes the new value. -/
def updatedColumn : Reader IdentPart := do
  let p ← part
  exactly " = EXCLUDED."
  let q ← part
  if p = q then return p else failure

/-- Read what happens where a key is taken. -/
def conflict : Reader Conflict := do
  let keys ← separated ", " part
  exactly ")"
  choose [
    (" DO NOTHING", return ⟨keys, []⟩),
    (" DO UPDATE SET ", do
      let updated ← separated ", " updatedColumn
      return ⟨keys, updated⟩)] failure

/-- Read the condition under which a selected row is not inserted. -/
def exception : Reader (List IdentPart × List Test) := do
  let table ← path
  exactly " WHERE "
  let ts ← tests
  exactly ")"
  return (table, ts)

/-- Read a selection whose row is inserted. -/
def branch : Reader Branch := do
  exactly "SELECT "
  let items ← separated ", " item
  choose [
    (" WHERE NOT EXISTS (SELECT 1 FROM ", return ⟨items, none, some (← exception)⟩),
    (" FROM ", do
      let source ← part
      choose [(" WHERE NOT EXISTS (SELECT 1 FROM ",
        return ⟨items, some source, some (← exception)⟩)] (return ⟨items, some source, none⟩))]
    failure

/-- Read what is inserted into which table. -/
def insertInto (replaces : Bool) : Reader Command := do
  let table ← path
  exactly " ("
  let columns ← separated ", " part
  exactly ")"
  choose [
    (" VALUES ", do
      let rows ← separated ", " row
      let conflict? ← choose [(" ON CONFLICT (", return some (← conflict))] (return none)
      return .insert replaces table columns rows conflict?)] (do
    exactly " "
    let branches ← separated " UNION ALL " branch
    return .insertSelected table columns branches)

/-- Read an insert. -/
def insert : Reader Command :=
  choose [
    ("INSERT INTO ", insertInto false),
    ("REPLACE INTO ", insertInto true),
    ("INSERT OR REPLACE INTO ", insertInto true)] failure

/-! ### Statements -/

/-- Read the name of a temporary table that is created. -/
def created : Reader IdentPart := do
  exactly "CREATE TEMPORARY TABLE IF NOT EXISTS "
  let temp ← part
  exactly " ("
  return temp

/-- Read the creation of a temporary table; its definition is not looked at. -/
def create : Reader Command := do
  let temp ← created
  modify fun c => { c with text := [] }
  return .create temp

/-- Read a statement. -/
def command : Reader Command := do
  if ← ahead "UPDATE " then update
  else if ← ahead "DELETE " then delete
  else if ← ahead "SELECT " then return .query (← separated " UNION ALL " query)
  else if ← ahead "DROP " then do
    exactly "DROP TABLE IF EXISTS "
    return .drop (← part)
  else if ← ahead "CREATE " then create
  else insert

/-- What a statement says. -/
def readStatement (d : Dialect) (s : Statement) : Option Command := readWith command d s

end QueryLoom.Dml

import QueryLoom.Batch.Record
import QueryLoom.Entity.Schema

/-!
# Steps of a plan

A batch operation makes a plan: a list of steps to be run in order. A step says which rows of which
table it reads or changes; only `Step.toSql` knows how that is written in a dialect.
-/

namespace QueryLoom

/-- A value of an inserted row: given, or generated by the engine. -/
inductive Cell where
  | value (v : Json)
  | generated (g : KeyGenerator)

/-- The column that marks deleted rows, with the mark. -/
structure Mark where
  field : Field
  value : Json

/-- What a select returns for each row. -/
inductive Selection where
  | count
  | fields (fields : List Field)

/-- For a column of an update: which rows get which value. -/
structure Assignment where
  field : Field
  /-- The key of a row and its new value; the first key that matches decides. -/
  arms : List (List Match × Json)

/-- One step of a plan. -/
inductive Step where
  /-- Insert rows into the table of the entity. -/
  | insert (entity : Entity) (columns : List Field) (rows : List (List Cell))
  /-- Insert rows, replacing those with the same primary key. -/
  | replace (entity : Entity) (columns : List Field) (rows : List (List Cell))
  /-- Insert each row unless the table has a row with the values that follow it. -/
  | insertAbsent (entity : Entity) (columns : List Field) (rows : List (List Cell × List Match))
  /-- Insert all rows of a temporary table. -/
  | insertStaged (entity : Entity) (columns : List Field) (temp : String)
  /-- Drop a temporary table. -/
  | dropTemp (temp : String)
  /-- Create a temporary table. -/
  | createTemp (temp : String) (columns : List Field) (keyed : Bool)
  /-- Insert rows into a temporary table. -/
  | fillTemp (temp : String) (columns : List Field) (rows : List (List Cell))
  /-- Assign columns in the rows with the given keys. -/
  | update (entity : Entity) (assignments : List Assignment) (rows : List (List Match))
  /-- Remove or mark the rows that match one of the groups. -/
  | delete (entity : Entity) (mark? : Option Mark) (groups : List (List Match))
  /-- Remove or mark the rows that satisfy a predicate. -/
  | deleteWhere (entity : Entity) (mark? : Option Mark) (predicate : Sql)
  /-- Remove or mark the rows that match a row of a temporary table. -/
  | deleteStaged (entity : Entity) (mark? : Option Mark) (columns : List Field) (temp : String)
  /-- Select the rows that match each of the groups, one group after the other. -/
  | select (entity : Entity) (selection : Selection) (groups : List (List Match))
  /-- Select the rows that satisfy a predicate. -/
  | selectWhere (entity : Entity) (selection : Selection) (predicate : Sql)
  /-- Select the rows that match a row of a temporary table. -/
  | selectStaged (entity : Entity) (selection : Selection) (columns : List Field) (temp : String)

/-! ### Pieces -/

/-- A value of an inserted row. -/
def Cell.toSql (d : Dialect) : Cell → Sql
  | .value v => Sql.bind v
  | .generated g => Sql.text (g.expr d)

/-- The values of a row between commas. -/
def rowSql (d : Dialect) (row : List Cell) : Sql :=
  Sql.joined ", " (row.map (Cell.toSql d))

/-- The rows of a multi-row insert. -/
def valuesSql (d : Dialect) (rows : List (List Cell)) : Sql :=
  Sql.text " VALUES " ++
    Sql.joined ", " (rows.map fun row => Sql.text "(" ++ rowSql d row ++ Sql.text ")")

/-- A column equals a value. -/
def Match.equalSql (d : Dialect) (m : Match) : Sql :=
  Sql.text (m.field.columnSql d ++ " = ") ++ Sql.bind m.value

/-- A column has a value, which may be null. -/
def Match.toSql (d : Dialect) (qualifier : String) (m : Match) : Sql :=
  if m.value.isNull then Sql.text (qualifier ++ m.field.columnSql d ++ " IS NULL")
  else Sql.text (qualifier ++ m.field.columnSql d ++ " = ") ++ Sql.bind m.value

/-- All columns equal their values. -/
def keySql (d : Dialect) (key : List Match) : Sql :=
  Sql.joined " AND " (key.map (Match.equalSql d))

/-- All columns have their values, nulls included. -/
def groupSql (d : Dialect) (qualifier : String) (group : List Match) : Sql :=
  Sql.joined " AND " (group.map (Match.toSql d qualifier))

/-- Equality that holds between two nulls. -/
def nullSafeEqual (d : Dialect) (left right : String) : String :=
  match d with
  | .mysql => s!"{left} <=> {right}"
  | .postgres => s!"{left} IS NOT DISTINCT FROM {right}"
  | .sqlite => s!"{left} IS {right}"

/-- Each column of the first table equals, nulls included, that of the second one. -/
def joinText (d : Dialect) (left right : String) (columns : List Field) : String :=
  " AND ".intercalate (columns.map fun f =>
    nullSafeEqual d s!"{left}.{f.columnSql d}" s!"{right}.{f.columnSql d}")

/-- What happens to the columns of a row whose key is taken. -/
def conflictText (d : Dialect) (e : Entity) (columns : List Field) : String :=
  let updates := (columns.filter fun f => !f.primaryKey).map fun f =>
    s!"{f.columnSql d} = EXCLUDED.{f.columnSql d}"
  let target := columnList e.primaryKeys d
  if updates.isEmpty then s!" ON CONFLICT ({target}) DO NOTHING"
  else s!" ON CONFLICT ({target}) DO UPDATE SET " ++ ", ".intercalate updates

/-- The head of a delete: removal, or setting the mark. -/
def deleteHead (d : Dialect) (e : Entity) : Option Mark → Sql
  | none => Sql.text s!"DELETE FROM {e.tableSql d}"
  | some mark =>
    Sql.text s!"UPDATE {e.tableSql d} SET {mark.field.columnSql d} = " ++ Sql.bind mark.value

/-- A selected column; it has an alias where the field is not named like the column. -/
def selectedColumn (d : Dialect) (f : Field) : String :=
  let column := "a." ++ f.columnSql d
  if f.columnName = f.name then column
  else if Ident.isPlain f.name.toList then s!"{column} AS {f.name}"
  else s!"{column} AS {d.quoteIdent f.name}"

/-- What a select returns. -/
def Selection.text (d : Dialect) : Selection → String
  | .count => "COUNT(1) ct"
  | .fields columns => ", ".intercalate (columns.map (selectedColumn d))

/-- The value of a column in an update. -/
def Assignment.toSql (d : Dialect) (a : Assignment) : Sql :=
  let column := a.field.columnSql d
  Sql.text s!"{column} = CASE" ++
    Sql.concat (a.arms.map fun (key, value) =>
      Sql.text " WHEN " ++ keySql d key ++ Sql.text " THEN " ++ Sql.bind value) ++
    Sql.text s!" ELSE {column} END"

/-- The rows of an update: a list of keys where the key is one column, otherwise alternatives. -/
def keyedRowsSql (d : Dialect) (keys : List Field) (rows : List (List Match)) : Sql :=
  match keys with
  | [key] =>
    Sql.text s!"{key.columnSql d} IN (" ++
      Sql.bindList (rows.flatMap fun row => row.map (·.value)) ++ Sql.text ")"
  | _ => Sql.joined " OR " (rows.map fun row => Sql.text "(" ++ keySql d row ++ Sql.text ")")

/-- The delete that joins the table `a` of the entity with a temporary table `b`. -/
def stagedDeleteSql (d : Dialect) (e : Entity) (mark? : Option Mark) (columns : List Field)
    (temp : String) : Sql :=
  let table := e.tableSql d
  let aliased := joinText d "a" "b" columns
  let matched := joinText d table "b" columns
  match d, mark? with
  | .mysql, none => Sql.text s!"DELETE a.* FROM {table} a INNER JOIN {temp} b ON {aliased}"
  | .mysql, some mark =>
    Sql.text (s!"UPDATE {table} a INNER JOIN {temp} b ON {aliased} SET a." ++
      s!"{mark.field.columnSql d} = ") ++ Sql.bind mark.value
  | .postgres, none => Sql.text s!"DELETE FROM {table} a USING {temp} b WHERE {aliased}"
  | .postgres, some mark =>
    Sql.text s!"UPDATE {table} a SET {mark.field.columnSql d} = " ++ Sql.bind mark.value ++
      Sql.text s!" FROM {temp} b WHERE {aliased}"
  | .sqlite, _ =>
    deleteHead d e mark? ++ Sql.text s!" WHERE EXISTS (SELECT 1 FROM {temp} b WHERE {matched})"

/-! ### The text of a step -/

/-- The SQL of a step. -/
def Step.toSql (d : Dialect) : Step → Sql
  | .insert e columns rows =>
    Sql.text s!"INSERT INTO {e.tableSql d} ({columnList columns d})" ++ valuesSql d rows
  | .replace e columns rows =>
    match d.replaceInto? with
    | some head => Sql.text s!"{head} {e.tableSql d} ({columnList columns d})" ++ valuesSql d rows
    | none =>
      Sql.text s!"INSERT INTO {e.tableSql d} ({columnList columns d})" ++ valuesSql d rows ++
        Sql.text (conflictText d e columns)
  | .insertAbsent e columns rows =>
    let source := match d.dual? with
      | some table => s!" FROM {table}"
      | none => ""
    Sql.text s!"INSERT INTO {e.tableSql d} ({columnList columns d}) " ++
      Sql.joined " UNION ALL " (rows.map fun (row, checks) =>
        Sql.text "SELECT " ++ rowSql d row ++
          Sql.text s!"{source} WHERE NOT EXISTS (SELECT 1 FROM {e.tableSql d} WHERE " ++
          keySql d checks ++ Sql.text ")")
  | .insertStaged e columns temp =>
    let list := columnList columns d
    Sql.text s!"INSERT INTO {e.tableSql d} ({list}) SELECT {list} FROM {temp}"
  | .dropTemp temp => Sql.text s!"DROP TABLE IF EXISTS {temp}"
  | .createTemp temp columns keyed => Sql.text (tempTableDdl temp columns keyed d)
  | .fillTemp temp columns rows =>
    Sql.text s!"INSERT INTO {temp} ({columnList columns d})" ++ valuesSql d rows
  | .update e assignments rows =>
    Sql.text s!"UPDATE {e.tableSql d} SET " ++
      Sql.joined ", " (assignments.map (Assignment.toSql d)) ++ Sql.text " WHERE " ++
      keyedRowsSql d e.primaryKeys rows
  | .delete e mark? groups =>
    deleteHead d e mark? ++ Sql.text " WHERE " ++
      Sql.joined " OR " (groups.map fun group =>
        Sql.text "(" ++ groupSql d "" group ++ Sql.text ")")
  | .deleteWhere e mark? predicate => deleteHead d e mark? ++ Sql.text " WHERE " ++ predicate
  | .deleteStaged e mark? columns temp => stagedDeleteSql d e mark? columns temp
  | .select e selection groups =>
    Sql.joined " UNION ALL " (groups.map fun group =>
      Sql.text s!"SELECT {selection.text d} FROM {e.tableSql d} a WHERE " ++ groupSql d "a." group)
  | .selectWhere e selection predicate =>
    Sql.text s!"SELECT {selection.text d} FROM {e.tableSql d} a WHERE " ++ predicate
  | .selectStaged e selection columns temp =>
    Sql.text (s!"SELECT {selection.text d} FROM {e.tableSql d} a INNER JOIN {temp} b ON " ++
      joinText d "a" "b" columns)

/-- The statement of a step. -/
def Step.build (d : Dialect) (s : Step) : Statement := (s.toSql d).build d

end QueryLoom

import QueryLoom.Proofs.Dml.Steps

/-!
# Joins are read back

The statements that join the table of an entity with a temporary one, read with the names that the
tables have in them. A table is named beside the other one, or the temporary table is named in a
query of its own within the statement.
-/

namespace QueryLoom.Dml

/-! ### Trees of joins -/

/-- A table as a statement names it: its path, and its alias there. -/
structure NamedTable where
  path : List IdentPart
  alias? : Option IdentPart
  deriving DecidableEq

/-- Two columns that are equal, nulls included. -/
structure Comparison where
  left : ColumnRef
  right : ColumnRef

/-- Two tables with what is asked of their columns. -/
structure Join where
  /-- The table whose rows are addressed. -/
  outer : NamedTable
  inner : NamedTable
  /-- Whether the inner table is named in a query of its own. -/
  nested : Bool
  on : List Comparison

/-! ### Readers -/

/-- Read a table with its alias. -/
def aliasedTable : Reader NamedTable := do
  let table ← path
  exactly " "
  let name ← part
  return ⟨table, some name⟩

/-- Read a temporary table with its alias. Temporary tables stand in a schema of their own. -/
def stagedTable : Reader NamedTable := do
  let table ← part
  exactly " "
  let name ← part
  return ⟨[.plain "temp", table], some name⟩

/-- Read a comparison of two columns. -/
def compared : Reader Comparison := do
  let left ← columnRef
  choose [
    (" <=> ", return ⟨left, ← columnRef⟩),
    (" IS NOT DISTINCT FROM ", return ⟨left, ← columnRef⟩),
    (" IS ", return ⟨left, ← columnRef⟩)] failure

/-- Read comparisons that must all hold. -/
def comparisons : Reader (List Comparison) := separated " AND " compared

/-- Read what a table is joined with beside it; `keyword` stands before the comparisons. -/
def joinedBeside (outer : NamedTable) (keyword : String) : Reader Join := do
  let inner ← stagedTable
  exactly keyword
  let on ← comparisons
  return ⟨outer, inner, false, on⟩

/-- Read what a table is joined with in a query within the statement. -/
def joinedWithin (outer : NamedTable) : Reader Join := do
  let inner ← stagedTable
  exactly " WHERE "
  let on ← comparisons
  exactly ")"
  return ⟨outer, inner, true, on⟩

/-- Read two tables beside each other, each with its alias. -/
def innerJoin : Reader Join := do
  let outer ← aliasedTable
  exactly " INNER JOIN "
  joinedBeside outer " ON "

/-- Read a delete that joins tables. -/
def joinedDelete : Reader Join := do
  exactly "DELETE "
  choose [
    ("FROM ", do
      let table ← path
      choose [(" WHERE EXISTS (SELECT 1 FROM ", joinedWithin ⟨table, none⟩)] (do
        exactly " "
        let name ← part
        exactly " USING "
        joinedBeside ⟨table, some name⟩ " WHERE ")),
    ("a.* FROM ", innerJoin)] failure

/-- Read an update that joins tables. -/
def joinedUpdate : Reader Join := do
  exactly "UPDATE "
  let table ← path
  choose [
    (" SET ", do
      let _ ← setting
      exactly " WHERE EXISTS (SELECT 1 FROM "
      joinedWithin ⟨table, none⟩)] (do
    exactly " "
    let name ← part
    choose [
      (" INNER JOIN ", do
        let j ← joinedBeside ⟨table, some name⟩ " ON "
        exactly " SET a."
        let _ ← setting
        return j),
      (" SET ", do
        let _ ← setting
        exactly " FROM "
        joinedBeside ⟨table, some name⟩ " WHERE ")] failure)

/-- Read a select that joins tables. -/
def joinedSelect : Reader Join := do
  exactly "SELECT "
  let _ ← choose [("COUNT(1) ct", return none)] (return some (← separated ", " selectedItem))
  exactly " FROM "
  innerJoin

/-- Read a statement that joins tables. -/
def join : Reader Join := do
  if ← ahead "DELETE " then joinedDelete
  else if ← ahead "UPDATE " then joinedUpdate
  else joinedSelect

/-- The join in a statement. -/
def readJoin (d : Dialect) (s : Statement) : Option Join := readWith join d s

variable {d : Dialect}

/-! ### Comparisons -/

/-- The comparison of a column with that of the joined row. -/
def comparisonOf (owner : List IdentPart) (f : Field) : Comparison :=
  ⟨⟨owner, f.part⟩, ⟨[.plain "b"], f.part⟩⟩

lemma qualifies_plain (name : String) (h : Ident.isPlain name.toList = true) :
    Qualifies d (name ++ ".") [.plain name] := by
  have hpath : Qualifies d (".".intercalate ([IdentPart.plain name].map (·.toSql d)) ++ ".")
      [.plain name] :=
    qualifies_path (by simp) fun p hp => by rwa [List.mem_singleton.mp hp]
  simpa [IdentPart.toSql] using hpath

/-- What stands between two columns, if nulls are equal. -/
def nullSafeSign : Dialect → String
  | .mysql => " <=> "
  | .postgres => " IS NOT DISTINCT FROM "
  | .sqlite => " IS "

lemma nullSafeEqual_eq_sign (d : Dialect) (left right : String) :
    nullSafeEqual d left right = left ++ nullSafeSign d ++ right := by
  apply String.toList_inj.mp
  cases d <;> simp [nullSafeEqual, nullSafeSign]

lemma readsAs_compared {left : String} {owner : List IdentPart}
    (h : Qualifies d (left ++ ".") owner) {f : Field} (hf : Legible f.part) :
    ReadsAs d compared
      (Sql.text (nullSafeEqual d (left ++ "." ++ f.columnSql d) ("b" ++ "." ++ f.columnSql d)))
      (comparisonOf owner f) ["."] := by
  have hright := ((qualifies_plain (d := d) "b" (by decide)).columnRef hf).map
    fun c => Comparison.mk ⟨owner, f.part⟩ c
  have hclears : clears ["."] (nullSafeSign d) = true := by cases d <;> decide
  rw [nullSafeEqual_eq_sign, ReadsAs.text_append, ReadsAs.text_append_append]
  refine (h.columnRef hf).bind ?_ ((beginsWith_text_append _ _).follows hclears)
  cases d with
  | mysql => exact .choose_this (beginsWith_text_append _ _) (.exactly _ hright)
  | postgres =>
    refine .choose_next _ (beginsWith_text_append _ _) (by decide) ?_
    exact .choose_this (beginsWith_text_append _ _) (.exactly _ hright)
  | sqlite =>
    refine .choose_next _ (beginsWith_text_append _ _) (by decide) ?_
    have hright' : BeginsWith "b" (Sql.text ("b" ++ "." ++ f.columnSql .sqlite)) :=
      ⟨Symbol.ofText ("." ++ f.columnSql .sqlite), by
        rw [Sql.content_text, String.append_assoc, Symbol.ofText_append]⟩
    refine .choose_next (" IS " ++ "b") (hright'.text_append " IS ") (by decide) ?_
    exact .choose_this (beginsWith_text_append _ _) (.exactly _ hright)

/-- The comparisons of a join of tables that go by other names beside each other. -/
lemma readsAs_comparisons (left : String) {owner : List IdentPart}
    (h : Qualifies d (left ++ ".") owner) {fields : List Field} (hne : fields ≠ [])
    (hfields : ∀ f ∈ fields, Legible f.part) :
    ReadsAs d comparisons (Sql.text (joinText d left "b" fields)) (fields.map (comparisonOf owner))
      [" AND ", "."] := by
  simp only [joinText, toString_text]
  exact .separated_text (by decide) hne fun f hf => readsAs_compared h (hfields f hf)

/-! ### Joined tables -/

lemma readsAs_join_update {q : Sql} {j : Join} {more : List String}
    (h : ReadsAs d joinedUpdate (Sql.text "UPDATE " ++ q) j more) :
    ReadsAs d join (Sql.text "UPDATE " ++ q) j more := by
  have hupdate := beginsWith_text_append "UPDATE " q
  exact .ahead_false (fun index rest _ => hupdate.not_isPrefixOf (by decide) ..)
    (.ahead_true hupdate h)

section Tables

variable {temp : String} (htemp : Ident.isPlain temp.toList = true) (outer : NamedTable) {q : Sql}
  {on : List Comparison}

/-- A temporary table as a statement names it. -/
def stagedAs (temp : String) : NamedTable := ⟨[.plain "temp", .plain temp], some (.plain "b")⟩

include htemp

lemma readsAs_stagedTable :
    ReadsAs d stagedTable (Sql.text temp ++ (Sql.text " " ++ Sql.text "b")) (stagedAs temp) [] := by
  refine (ReadsAs.part (p := .plain temp) htemp).bind (.exactly _ ?_)
    ((beginsWith_text_append _ _).follows (by decide))
  exact (ReadsAs.part (p := .plain "b") rfl).map _

lemma readsAs_joinedBeside (keyword : String) (hkeyword : clears [] keyword = true)
    (h : ReadsAs d comparisons q on [" AND ", "."]) :
    ReadsAs d (joinedBeside outer keyword)
      (Sql.text temp ++ (Sql.text " " ++ (Sql.text "b" ++ (Sql.text keyword ++ q))))
      ⟨outer, stagedAs temp, false, on⟩ [" AND ", "."] := by
  have hread : ReadsAs d (joinedBeside outer keyword)
      (Sql.text temp ++ (Sql.text " " ++ Sql.text "b") ++ (Sql.text keyword ++ q))
      ⟨outer, stagedAs temp, false, on⟩ [" AND ", "."] :=
    (readsAs_stagedTable htemp).bind (.exactly _ (h.map _))
      ((beginsWith_text_append _ _).follows hkeyword)
  rwa [append_assoc, append_assoc] at hread

lemma readsAs_joinedWithin (h : ReadsAs d comparisons q on [" AND ", "."]) :
    ReadsAs d (joinedWithin outer)
      (Sql.text temp ++ (Sql.text " " ++ (Sql.text "b" ++
        (Sql.text " WHERE " ++ (q ++ Sql.text ")")))))
      ⟨outer, stagedAs temp, true, on⟩ [] := by
  have hread : ReadsAs d (joinedWithin outer)
      (Sql.text temp ++ (Sql.text " " ++ Sql.text "b") ++
        (Sql.text " WHERE " ++ (q ++ Sql.text ")")))
      ⟨outer, stagedAs temp, true, on⟩ [] := by
    refine (readsAs_stagedTable htemp).bind (.exactly _ ?_)
      ((beginsWith_text_append _ _).follows (by decide))
    exact h.bind (.last_pure _ _ _) ((beginsWith_text _).follows (by decide))
  rwa [append_assoc, append_assoc] at hread

end Tables

/-! ### Keywords behind an alias -/

lemma append_alias (s name keyword : String) :
    s ++ (" " ++ name ++ keyword) = s ++ " " ++ name ++ keyword := by
  simp only [String.append_assoc]

lemma append_inner_join (s : String) :
    s ++ " a INNER JOIN " = s ++ " " ++ "a" ++ " INNER JOIN " :=
  append_alias s "a" " INNER JOIN "

lemma append_using (s : String) : s ++ " a USING " = s ++ " " ++ "a" ++ " USING " :=
  append_alias s "a" " USING "

lemma append_set (s : String) : s ++ " a SET " = s ++ " " ++ "a" ++ " SET " :=
  append_alias s "a" " SET "

lemma append_on (s : String) : s ++ " b ON " = s ++ " " ++ "b" ++ " ON " :=
  append_alias s "b" " ON "

lemma append_where (s : String) : s ++ " b WHERE " = s ++ " " ++ "b" ++ " WHERE " :=
  append_alias s "b" " WHERE "

section Statements

variable {e : Entity} (he : LegibleEntity e) {fields : List Field} (hne : fields ≠ [])
  (hfields : ∀ f ∈ fields, Legible f.part) {temp : String}
  (htemp : Ident.isPlain temp.toList = true)

/-- The table of an entity as a statement names it beside a temporary one. -/
def aliasedAs (e : Entity) : NamedTable := ⟨e.table.parts, some (.plain "a")⟩

include he hne hfields htemp

/-- Both tables beside each other, each with its alias. -/
lemma readsAs_innerJoin :
    ReadsAs d innerJoin
      (Sql.text (e.tableSql d) ++ (Sql.text " " ++ (Sql.text "a" ++ (Sql.text " INNER JOIN " ++
        (Sql.text temp ++ (Sql.text " " ++ (Sql.text "b" ++ (Sql.text " ON " ++
          Sql.text (joinText d "a" "b" fields)))))))))
      ⟨aliasedAs e, stagedAs temp, false, fields.map (comparisonOf aliased)⟩ [" AND ", "."] := by
  have htable : ReadsAs d aliasedTable
      (Sql.text (e.tableSql d) ++ (Sql.text " " ++ Sql.text "a")) (aliasedAs e) [] := by
    refine he.readsAs_table.bind (.exactly _ ?_) ((beginsWith_text_append _ _).follows (by decide))
    exact (ReadsAs.part (p := .plain "a") rfl).map _
  have hbeside := readsAs_joinedBeside htemp (aliasedAs e) " ON " (by decide)
    (readsAs_comparisons (d := d) "a" qualifies_alias hne hfields)
  rw [← append_assoc (Sql.text " "), ← append_assoc (Sql.text (e.tableSql d))]
  exact htable.bind (.exactly _ hbeside) ((beginsWith_text_append _ _).follows (by decide))

/-- A select names both tables beside each other. -/
lemma readsAs_join_selectStaged {selection : Selection} (hselection : LegibleSelection selection) :
    ReadsAs d join ((Step.selectStaged e selection fields temp).toSql d)
      ⟨aliasedAs e, stagedAs temp, false, fields.map (comparisonOf aliased)⟩ [" AND ", "."] := by
  have hselect : BeginsWith "SELECT " ((Step.selectStaged e selection fields temp).toSql d) := by
    simp only [Step.toSql, toString_text]
    exact ⟨_, by simp; rfl⟩
  refine .ahead_false (fun index rest _ => hselect.not_isPrefixOf (by decide) ..) ?_
  refine .ahead_false (fun index rest _ => hselect.not_isPrefixOf (by decide) ..) ?_
  simp only [Step.toSql, toString_text, append_inner_join, append_on, ReadsAs.text_append,
    ReadsAs.text_append_append]
  refine .exactly _ ((readsAs_columns hselection).bind (.exactly _ ?_)
    ((beginsWith_text_append _ _).follows (by decide)))
  exact readsAs_innerJoin he hne hfields htemp

/-- MySQL names both tables beside each other. -/
lemma readsAs_join_mysql {mark? : Option Mark}
    (hmark : ∀ mark ∈ mark?, Legible mark.field.part) :
    ReadsAs .mysql join ((Step.deleteStaged e mark? fields temp).toSql .mysql)
      ⟨aliasedAs e, stagedAs temp, false, fields.map (comparisonOf aliased)⟩ [" AND ", "."] := by
  cases mark? with
  | none =>
    have hhead : "DELETE a.* FROM " = "DELETE " ++ "a.* FROM " := by decide
    simp only [Step.toSql, stagedDeleteSql, toString_text, hhead, append_inner_join, append_on,
      ReadsAs.text_append, ReadsAs.text_append_append]
    refine .ahead_true (beginsWith_text_append _ _) (.exactly _ ?_)
    refine .choose_next "a.* FROM " (beginsWith_text_append _ _) (by decide) ?_
    refine .choose_this (beginsWith_text_append _ _) (.exactly _ ?_)
    exact readsAs_innerJoin he hne hfields htemp
  | some mark =>
    have hbeside := readsAs_joinedBeside htemp (aliasedAs e) " ON " (by decide)
      (readsAs_comparisons (d := .mysql) "a" qualifies_alias hne hfields)
    have hset := readsAs_set (d := .mysql) (hmark mark rfl) mark.value
    simp only [Step.toSql, stagedDeleteSql, toString_text, append_inner_join, append_on,
      ReadsAs.text_append_append]
    refine readsAs_join_update (.exactly _ ?_)
    refine he.readsAs_table.bind ?_ ((beginsWith_text_append _ _).follows (by decide))
    refine .choose_next (" " ++ "a") ((beginsWith_text_append _ _).text_append _) (by decide) ?_
    refine .exactly _ ((ReadsAs.part (p := .plain "a") rfl).bind ?_
      ((beginsWith_text_append _ _).follows (by decide)))
    refine .choose_this (beginsWith_text_append _ _) (.exactly _ ?_)
    rw [← append_assoc, ← append_assoc, ← append_assoc, ← append_assoc]
    rw [← append_assoc, ← append_assoc, ← append_assoc] at hbeside
    refine hbeside.bind (.exactly _ ?_) ((beginsWith_text_append _ _).follows (by decide))
    rw [ReadsAs.text_append_append]
    exact (hset.map _).mono (List.nil_subset _)

/-- PostgreSQL names both tables beside each other. -/
lemma readsAs_join_postgres {mark? : Option Mark}
    (hmark : ∀ mark ∈ mark?, Legible mark.field.part) :
    ReadsAs .postgres join ((Step.deleteStaged e mark? fields temp).toSql .postgres)
      ⟨aliasedAs e, stagedAs temp, false, fields.map (comparisonOf aliased)⟩ [" AND ", "."] := by
  have hbeside := readsAs_joinedBeside htemp (aliasedAs e) " WHERE " (by decide)
    (readsAs_comparisons (d := .postgres) "a" qualifies_alias hne hfields)
  cases mark? with
  | none =>
    have hhead : "DELETE FROM " = "DELETE " ++ "FROM " := by decide
    simp only [Step.toSql, stagedDeleteSql, toString_text, hhead, append_using, append_where,
      ReadsAs.text_append, ReadsAs.text_append_append]
    refine .ahead_true (beginsWith_text_append _ _) (.exactly _ ?_)
    refine .choose_this (beginsWith_text_append _ _) (.exactly _ ?_)
    refine he.readsAs_table.bind ?_ ((beginsWith_text_append _ _).follows (by decide))
    refine .choose_next (" " ++ "a") ((beginsWith_text_append _ _).text_append _) (by decide) ?_
    exact .exactly _ ((ReadsAs.part (p := .plain "a") rfl).bind (.exactly _ hbeside)
      ((beginsWith_text_append _ _).follows (by decide)))
  | some mark =>
    have hset := readsAs_set (d := .postgres) (hmark mark rfl) mark.value
    simp only [Step.toSql, stagedDeleteSql, toString_text, append_assoc, append_set, append_where,
      ReadsAs.text_append_append]
    refine readsAs_join_update (.exactly _ ?_)
    refine he.readsAs_table.bind ?_ ((beginsWith_text_append _ _).follows (by decide))
    refine .choose_next (" " ++ "a") ((beginsWith_text_append _ _).text_append _) (by decide) ?_
    refine .exactly _ ((ReadsAs.part (p := .plain "a") rfl).bind ?_
      ((beginsWith_text_append _ _).follows (by decide)))
    refine .choose_next " SET " (beginsWith_text_append _ _) (by decide) ?_
    refine .choose_this (beginsWith_text_append _ _) (.exactly _ ?_)
    rw [← append_assoc, ← append_assoc]
    rw [← append_assoc] at hset
    refine hset.bind ?_ ?_
    · simp only [ReadsAs.text_append, ReadsAs.text_append_append]
      exact .exactly _ hbeside
    · refine BeginsWith.follows (s := " FROM ") ?_ (by decide)
      exact ⟨Symbol.ofText (temp ++ " " ++ "b" ++ " WHERE " ++ joinText .postgres "a" "b" fields),
        by simp⟩

omit hne hfields htemp in
/-- A delete whose table has no alias, and a query within it. -/
lemma readsAs_join_deleteHead {mark? : Option Mark}
    (hmark : ∀ mark ∈ mark?, Legible mark.field.part) {q : Sql} {j : Join} {more : List String}
    (h : ReadsAs d (joinedWithin ⟨e.table.parts, none⟩) q j more) :
    ReadsAs d join
      (deleteHead d e mark? ++ (Sql.text " WHERE EXISTS (SELECT 1 FROM " ++ q)) j more := by
  cases mark? with
  | none =>
    have hhead : "DELETE FROM " = "DELETE " ++ "FROM " := by decide
    simp only [deleteHead, toString_text, hhead, ReadsAs.text_append_append]
    refine .ahead_true (beginsWith_text_append _ _) (.exactly _ ?_)
    refine .choose_this (beginsWith_text_append _ _) (.exactly _ ?_)
    refine he.readsAs_table.bind ?_ ((beginsWith_text_append _ _).follows (by decide))
    exact .choose_this (beginsWith_text_append _ _) (.exactly _ h)
  | some mark =>
    have hset := readsAs_set (d := d) (hmark mark rfl) mark.value
    simp only [deleteHead, toString_text, append_assoc, ReadsAs.text_append_append]
    refine readsAs_join_update (.exactly _ ?_)
    refine he.readsAs_table.bind ?_ ((beginsWith_text_append _ _).follows (by decide))
    refine .choose_this (beginsWith_text_append _ _) (.exactly _ ?_)
    rw [← append_assoc, ← append_assoc]
    rw [← append_assoc] at hset
    exact hset.bind (.exactly _ h) ((beginsWith_text_append _ _).follows (by decide))

/-- SQLite names the temporary table in a query within the statement. -/
lemma readsAs_join_sqlite {mark? : Option Mark}
    (hmark : ∀ mark ∈ mark?, Legible mark.field.part) :
    ReadsAs .sqlite join ((Step.deleteStaged e mark? fields temp).toSql .sqlite)
      ⟨⟨e.table.parts, none⟩, stagedAs temp, true, fields.map (comparisonOf e.table.parts)⟩ [] := by
  have hread := readsAs_join_deleteHead he hmark (readsAs_joinedWithin htemp ⟨e.table.parts, none⟩
    (readsAs_comparisons (d := .sqlite) (e.tableSql .sqlite) he.qualifies hne hfields))
  have haligned : (deleteHead .sqlite e mark?).Aligned := by cases mark? <;> rfl
  have hwhere : Symbol.ofText " b WHERE "
      = Symbol.ofText " " ++ (Symbol.ofText "b" ++ Symbol.ofText " WHERE ") := rfl
  refine hread.congr (aligned_append haligned (aligned_text _)) ?_
  rw [Step.toSql, stagedDeleteSql, content_append haligned (aligned_text _),
    content_append haligned]
  · simp [content_text_append, hwhere]
  · exact aligned_text _

/-- How a delete joins the tables. SQLite names the table of the entity without an alias, and the
temporary table in a query within the statement. -/
def deleteJoin (d : Dialect) (e : Entity) (fields : List Field) (temp : String) : Join :=
  match d with
  | .sqlite =>
    ⟨⟨e.table.parts, none⟩, stagedAs temp, true, fields.map (comparisonOf e.table.parts)⟩
  | _ => ⟨aliasedAs e, stagedAs temp, false, fields.map (comparisonOf aliased)⟩

lemma readJoin_deleteStaged {mark? : Option Mark}
    (hmark : ∀ mark ∈ mark?, Legible mark.field.part) (d : Dialect) :
    readJoin d ((Step.deleteStaged e mark? fields temp).build d)
      = some (deleteJoin d e fields temp) := by
  cases d with
  | mysql => exact (readsAs_join_mysql he hne hfields htemp hmark).readWith (by decide)
  | postgres => exact (readsAs_join_postgres he hne hfields htemp hmark).readWith (by decide)
  | sqlite => exact (readsAs_join_sqlite he hne hfields htemp hmark).readWith (by decide)

lemma readJoin_selectStaged {selection : Selection} (hselection : LegibleSelection selection)
    (d : Dialect) :
    readJoin d ((Step.selectStaged e selection fields temp).build d)
      = some ⟨aliasedAs e, stagedAs temp, false, fields.map (comparisonOf aliased)⟩ :=
  (readsAs_join_selectStaged he hne hfields htemp hselection).readWith (by decide)

end Statements

end QueryLoom.Dml

import QueryLoom.Proofs.Dml.Conditions

/-!
# Steps are read back

The statement of a step is read as the tree that the step stands for.
-/

namespace QueryLoom.Dml

variable {d : Dialect}

/-! ### Updates -/

/-- What an assignment sets. -/
def settingOf (a : Assignment) : Setting :=
  ⟨a.field.part, .cases (a.arms.map fun arm => (arm.1.map equalTest, arm.2)) a.field.part⟩

/-- An assignment with legible columns; every arm has a key. -/
structure LegibleAssignment (a : Assignment) : Prop where
  column : Legible a.field.part
  keys : ∀ arm ∈ a.arms, arm.1 ≠ [] ∧ LegibleMatches arm.1

lemma readsAs_arm {key : List Match} (hne : key ≠ []) (h : LegibleMatches key) (v : Json) :
    ReadsAs d arm (keySql d key ++ (Sql.text " THEN " ++ Sql.bind v))
      (key.map equalTest, v) [] := by
  refine (readsAs_keySql hne h).bind ?_ ((beginsWith_text_append _ _).follows (by decide))
  exact .exactly _ ((ReadsAs.placeholder v).map _)

lemma readsAs_assignment {a : Assignment} (h : LegibleAssignment a) :
    ReadsAs d setting (a.toSql d) (settingOf a) [] := by
  have harms := @ReadsAs.many _ d _ arm
    (fun arm => keySql d arm.1 ++ (Sql.text " THEN " ++ Sql.bind arm.2))
    (fun arm => (arm.1.map equalTest, arm.2)) [] " WHEN " (by decide) a.arms
    fun arm harm => readsAs_arm (h.keys arm harm).1 (h.keys arm harm).2 arm.2
  simp only [Assignment.toSql, toString_text, append_assoc, ReadsAs.text_append_append]
  refine (ReadsAs.part h.column).bind ?_ ((beginsWith_text_append _ _).follows (by decide))
  refine .choose_this (beginsWith_text_append _ _) (.exactly _ (harms.bind ?_ ?_))
  · rw [ReadsAs.text_append, ReadsAs.text_append_append]
    refine .exactly _ ((ReadsAs.part h.column).bind (.last_pure _ _ _) ?_)
    exact (beginsWith_text _).follows (by decide)
  · refine BeginsWith.follows (s := " ELSE ") ?_ (by decide)
    exact ⟨Symbol.ofText (a.field.columnSql d ++ " END"), by simp⟩

/-- A column is set to a bound value. -/
lemma readsAs_set {p : IdentPart} (hp : Legible p) (v : Json) :
    ReadsAs d setting (Sql.text (p.toSql d) ++ (Sql.text " = " ++ Sql.bind v))
      ⟨p, .value v⟩ [] := by
  refine (ReadsAs.part hp).bind ?_ ((beginsWith_text_append _ _).follows (by decide))
  refine .choose_other (fun index rest _ => ?_) (.exactly _ ((ReadsAs.placeholder v).map _))
  have hcontent : (Sql.bind v).content = [.value v] := rfl
  rw [content_text_append, written_ofText_append, hcontent]
  cases d <;> simp [written, Dialect.placeholder, List.isPrefixOf]

lemma readsAs_update {e : Entity} (he : LegibleEntity e) {assignments : List Assignment}
    (hne : assignments ≠ []) (hassignments : ∀ a ∈ assignments, LegibleAssignment a)
    {rows : List (List Match)} (hrows : rows ≠ [])
    (hrow : ∀ row ∈ rows, row ≠ [] ∧ LegibleMatches row) :
    ReadsAs d command ((Step.update e assignments rows).toSql d)
      (.change (.set (assignments.map settingOf)) e.table.parts (keyScope e.primaryKeys rows))
      [" OR "] := by
  simp only [Step.toSql, toString_text, append_assoc, ReadsAs.text_append_append]
  refine .ahead_true (beginsWith_text_append _ _) (.exactly _ ?_)
  refine he.readsAs_table.bind ?_ ((beginsWith_text_append _ _).follows (by decide))
  refine .choose_this (beginsWith_text_append _ _) (.exactly _ ?_)
  refine (ReadsAs.separated (by decide) hne fun a ha => readsAs_assignment (hassignments a ha)).bind
    ?_ ((beginsWith_text_append _ _).follows (by decide))
  exact .exactly _ ((readsAs_keyedRows hrows he.primaryKeys hrow).map _)

/-! ### Deletes -/

/-- What a delete does to the rows: it removes or marks them. -/
def markAction : Option Mark → Action
  | none => .remove
  | some mark => .set [⟨mark.field.part, .value mark.value⟩]

lemma readsAs_singleton {α : Type} {r : Reader α} {q : Sql} {a : α} (sep : String)
    {more : List String} (hsep : clears more sep = true) (h : ReadsAs d r q a more) :
    ReadsAs d (separated sep r) q [a] (sep :: more) := by
  have hread := @ReadsAs.separated _ d _ r (fun _ : Unit => q) (fun _ => a) more sep hsep [()]
    (by simp) fun _ _ => h
  simpa using hread

lemma readsAs_command_delete {q : Sql} {c : Command} {more : List String}
    (h : ReadsAs d delete (Sql.text "DELETE " ++ q) c more) :
    ReadsAs d command (Sql.text "DELETE " ++ q) c more := by
  have hdelete := beginsWith_text_append "DELETE " q
  refine .ahead_false (fun index rest _ => ?_) (.ahead_true hdelete h)
  exact hdelete.not_isPrefixOf (by decide) ..

/-- The rows of a scope are removed or marked. -/
lemma readsAs_deleteHead {e : Entity} (he : LegibleEntity e) {mark? : Option Mark}
    (hmark : ∀ mark ∈ mark?, Legible mark.field.part) {q : Sql} {s : Scope} {more : List String}
    (h : ReadsAs d scope q s more) :
    ReadsAs d command (deleteHead d e mark? ++ (Sql.text " WHERE " ++ q))
      (.change (markAction mark?) e.table.parts s) more := by
  have hwhere : BeginsWith " WHERE " (Sql.text " WHERE " ++ q) := beginsWith_text_append _ _
  cases mark? with
  | none =>
    have hhead : "DELETE FROM " = "DELETE " ++ "FROM " := by decide
    simp only [deleteHead, toString_text, hhead, ReadsAs.text_append_append]
    refine readsAs_command_delete (.exactly _ ?_)
    refine .choose_this (beginsWith_text_append _ _) (.exactly _ ?_)
    refine he.readsAs_table.bind ?_ (hwhere.follows (by decide))
    exact .choose_this hwhere (.exactly _ (h.map _))
  | some mark =>
    simp only [deleteHead, toString_text, append_assoc, ReadsAs.text_append_append]
    refine .ahead_true (beginsWith_text_append _ _) (.exactly _ ?_)
    refine he.readsAs_table.bind ?_ ((beginsWith_text_append _ _).follows (by decide))
    refine .choose_this (beginsWith_text_append _ _) (.exactly _ ?_)
    have hset := readsAs_singleton ", " (by decide)
      (readsAs_set (d := d) (hmark mark rfl) mark.value)
    rw [← append_assoc, ← append_assoc]
    rw [← append_assoc] at hset
    refine hset.bind (.exactly _ (h.map _)) (hwhere.follows (by decide))

lemma readsAs_delete {e : Entity} (he : LegibleEntity e) {mark? : Option Mark}
    (hmark : ∀ mark ∈ mark?, Legible mark.field.part) {groups : List (List Match)}
    (hne : groups ≠ []) (hgroups : ∀ group ∈ groups, group ≠ [] ∧ LegibleMatches group) :
    ReadsAs d command ((Step.delete e mark? groups).toSql d)
      (.change (markAction mark?) e.table.parts
        (.groups (groups.map fun g => g.map (matchTest [])))) [" OR "] := by
  simp only [Step.toSql, append_assoc]
  exact readsAs_deleteHead he hmark (readsAs_alternatives hne fun group hgroup =>
    readsAs_groupSql qualifies_none (hgroups group hgroup).1 (hgroups group hgroup).2)

/-- The owner of the columns of a table that is joined with a temporary one. -/
def joinedOwner (d : Dialect) (e : Entity) : List IdentPart :=
  match d with
  | .sqlite => e.table.parts
  | _ => aliased

lemma readsAs_deleteStaged {e : Entity} (he : LegibleEntity e) {mark? : Option Mark}
    (hmark : ∀ mark ∈ mark?, Legible mark.field.part) {columns : List Field} (hne : columns ≠ [])
    (hcolumns : ∀ f ∈ columns, Legible f.part) {temp : String}
    (htemp : Ident.isPlain temp.toList = true) :
    ReadsAs d command ((Step.deleteStaged e mark? columns temp).toSql d)
      (.change (markAction mark?) e.table.parts
        (.joined (.plain temp) (columns.map (sameTest (joinedOwner d e))))) [" AND "] := by
  have haliased : ReadsAs d tests (Sql.text (joinText d "a" "b" columns))
      (columns.map (sameTest aliased)) [" AND "] :=
    readsAs_joinText qualifies_alias hne hcolumns
  match d, mark?, hmark with
  | .mysql, none, _ =>
    have hhead : "DELETE a.* FROM " = "DELETE " ++ "a.* FROM " := by decide
    simp only [Step.toSql, stagedDeleteSql, toString_text, hhead, ReadsAs.text_append,
      ReadsAs.text_append_append]
    refine readsAs_command_delete (.exactly _ ?_)
    refine .choose_next "a.* FROM " (beginsWith_text_append _ _) (by decide) ?_
    refine .choose_this (beginsWith_text_append _ _) (.exactly _ ?_)
    refine he.readsAs_table.bind ?_ ((beginsWith_text_append _ _).follows (by decide))
    exact .exactly _ ((readsAs_joinedBy htemp (by decide) haliased).map _)
  | .mysql, some mark, hmark =>
    have hset := readsAs_set (d := .mysql) (hmark mark rfl) mark.value
    have hjoined := @readsAs_joinedBy .mysql temp " b ON " htemp (by decide) _ _ _ haliased
    simp only [Step.toSql, stagedDeleteSql, toString_text, ReadsAs.text_append_append]
    refine .ahead_true (beginsWith_text_append _ _) (.exactly _ ?_)
    refine he.readsAs_table.bind ?_ ((beginsWith_text_append _ _).follows (by decide))
    refine .choose_next " a INNER JOIN " (beginsWith_text_append _ _) (by decide) ?_
    refine .choose_this (beginsWith_text_append _ _) (.exactly _ ?_)
    rw [← append_assoc, ← append_assoc]
    rw [← append_assoc] at hjoined
    refine hjoined.bind (.exactly _ ?_) ((beginsWith_text_append _ _).follows (by decide))
    rw [ReadsAs.text_append_append]
    exact (hset.map _).mono (List.nil_subset _)
  | .postgres, none, _ =>
    have hhead : "DELETE FROM " = "DELETE " ++ "FROM " := by decide
    simp only [Step.toSql, stagedDeleteSql, toString_text, hhead, ReadsAs.text_append,
      ReadsAs.text_append_append]
    refine readsAs_command_delete (.exactly _ ?_)
    refine .choose_this (beginsWith_text_append _ _) (.exactly _ ?_)
    refine he.readsAs_table.bind ?_ ((beginsWith_text_append _ _).follows (by decide))
    refine .choose_next " a USING " (beginsWith_text_append _ _) (by decide) ?_
    refine .choose_this (beginsWith_text_append _ _) (.exactly _ ?_)
    exact (readsAs_joinedBy htemp (by decide) haliased).map _
  | .postgres, some mark, hmark =>
    have hset := readsAs_set (d := .postgres) (hmark mark rfl) mark.value
    have hjoined := @readsAs_joinedBy .postgres temp " b WHERE " htemp (by decide) _ _ _ haliased
    simp only [Step.toSql, stagedDeleteSql, toString_text, append_assoc, ReadsAs.text_append_append]
    refine .ahead_true (beginsWith_text_append _ _) (.exactly _ ?_)
    refine he.readsAs_table.bind ?_ ((beginsWith_text_append _ _).follows (by decide))
    refine .choose_next " a SET " (beginsWith_text_append _ _) (by decide) ?_
    refine .choose_next " a SET " (beginsWith_text_append _ _) (by decide) ?_
    refine .choose_this (beginsWith_text_append _ _) (.exactly _ ?_)
    rw [← append_assoc, ← append_assoc]
    rw [← append_assoc] at hset
    refine hset.bind ?_ ?_
    · simp only [ReadsAs.text_append, ReadsAs.text_append_append]
      exact .exactly _ (hjoined.map _)
    · refine BeginsWith.follows (s := " FROM ") ?_ (by decide)
      exact ⟨Symbol.ofText (temp ++ " b WHERE " ++ joinText .postgres "a" "b" columns), by simp⟩
  | .sqlite, mark?, hmark =>
    have hmatched := readsAs_joinText (d := .sqlite) he.qualifies hne hcolumns
    have hread := readsAs_deleteHead he hmark (readsAs_exists htemp hmatched)
    have haligned : (deleteHead .sqlite e mark?).Aligned := by cases mark? <;> rfl
    refine (hread.congr (aligned_append haligned (aligned_text _)) ?_).mono (List.nil_subset _)
    have hhead : Symbol.ofText " WHERE EXISTS (SELECT 1 FROM "
        = Symbol.ofText " WHERE " ++ (Symbol.ofText "EXISTS" ++ Symbol.ofText " (SELECT 1 FROM ") :=
      rfl
    rw [content_append haligned (aligned_text _), content_append haligned]
    · simp [content_text_append, content_append, aligned_text, hhead]
    · exact aligned_text _

/-! ### Selects -/

/-- The alias of a selected column: the name of the field, where the column has another one. -/
def aliasOf (f : Field) : Option IdentPart :=
  if f.columnName = f.name then none
  else if Ident.isPlain f.name.toList then some (.plain f.name)
  else some (.quoted f.name)

/-- The columns of a selection. -/
def columnsOf : Selection → Option (List (IdentPart × Option IdentPart))
  | .count => none
  | .fields columns => some (columns.map fun f => (f.part, aliasOf f))

/-- A selection of legible columns. -/
def LegibleSelection : Selection → Prop
  | .count => True
  | .fields columns => columns ≠ [] ∧ ∀ f ∈ columns, Legible f.part

lemma readsAs_selectedColumn {f : Field} (hf : Legible f.part) :
    ReadsAs d selectedItem (Sql.text (selectedColumn d f)) (f.part, aliasOf f) [" AS "] := by
  have halias {p : IdentPart} (hp : Legible p) :
      ReadsAs d selectedItem
        (Sql.text "a." ++ (Sql.text (f.columnSql d) ++ (Sql.text " AS " ++ Sql.text (p.toSql d))))
        (f.part, some p) [" AS "] := by
    refine .exactly _ ((ReadsAs.part hf).bind ?_ ((beginsWith_text_append _ _).follows (by decide)))
    refine .choose_this (beginsWith_text_append _ _) (.exactly _ ?_)
    exact ((ReadsAs.part hp).map _).mono (List.nil_subset _)
  unfold selectedColumn aliasOf
  split_ifs with hname hplain
  · rw [ReadsAs.text_append]
    refine .exactly _ ((ReadsAs.part hf).bind_end ?_ (List.nil_subset _))
    refine .choose_other (fun index rest hends => ?_) (.pure_empty _)
    exact hends.not_more " AS " List.mem_cons_self
  · simp only [toString_text, ReadsAs.text_append, ReadsAs.text_append_append]
    exact halias (p := .plain f.name) hplain
  · simp only [toString_text, ReadsAs.text_append, ReadsAs.text_append_append]
    exact halias (p := .quoted f.name) trivial

lemma beginsWith_selection {columns : List Field} (hne : columns ≠ []) :
    BeginsWith "a." (Sql.text ((Selection.fields columns).text d)) := by
  have hcolumn (f : Field) : ∃ t, selectedColumn d f = "a." ++ t := by
    unfold selectedColumn
    dsimp only
    split_ifs with hname hplain
    · exact ⟨_, rfl⟩
    · exact ⟨f.columnSql d ++ " AS " ++ f.name, by simp [String.append_assoc]⟩
    · exact ⟨f.columnSql d ++ " AS " ++ d.quoteIdent f.name, by simp [String.append_assoc]⟩
  obtain ⟨f, fs, rfl⟩ := List.exists_cons_of_ne_nil hne
  obtain ⟨t, ht⟩ := hcolumn f
  cases fs with
  | nil => exact ⟨Symbol.ofText t, by simp [Selection.text, ht]⟩
  | cons g gs =>
    exact ⟨Symbol.ofText (t ++ ", " ++ ", ".intercalate ((g :: gs).map (selectedColumn d))), by
      simp [Selection.text, String.intercalate_cons_cons, ht]⟩

/-- The columns of a selection, or that rows are counted. -/
lemma readsAs_columns {selection : Selection} (hselection : LegibleSelection selection) :
    ReadsAs d
      (choose [("COUNT(1) ct", return none)] (return some (← separated ", " selectedItem)))
      (Sql.text (selection.text d)) (columnsOf selection) [", ", " AS "] := by
  cases selection with
  | count => exact .choose_this (beginsWith_text _) (.last_pure _ _ _)
  | fields columns =>
    obtain ⟨hne, hcolumns⟩ := hselection
    have hread : ReadsAs d (separated ", " selectedItem)
        (Sql.text ((Selection.fields columns).text d)) (columns.map fun f => (f.part, aliasOf f))
        [", ", " AS "] :=
      .separated_text (by decide) hne fun f hf => readsAs_selectedColumn (hcolumns f hf)
    have hcount : differ "COUNT(1) ct".toList "a.".toList = true := by decide
    exact .choose_next "a." (beginsWith_selection hne) hcount (hread.map some)

/-- One selection of rows of a scope. -/
lemma readsAs_query {e : Entity} (he : LegibleEntity e) {selection : Selection}
    (hselection : LegibleSelection selection) {q : Sql} {s : Scope} {more : List String}
    (hfollows : Follows d q more ["."])
    (h : ReadsAs d (choose [
      (" a WHERE ", return .groups [← tests]),
      (" a INNER JOIN ", joinedBy " b ON ")] failure) q s more) :
    ReadsAs d query
      (Sql.text "SELECT " ++ (Sql.text (selection.text d) ++ (Sql.text " FROM " ++
        (Sql.text (e.tableSql d) ++ q))))
      ⟨columnsOf selection, e.table.parts, s⟩ more := by
  refine .exactly _ ((readsAs_columns hselection).bind (.exactly _ ?_)
    ((beginsWith_text_append _ _).follows (by decide)))
  exact he.readsAs_table.bind (h.map _) hfollows

lemma readsAs_command_query {α : Type} {f : α → Sql} {g : α → Query} {xs : List α} (hne : xs ≠ [])
    {more : List String} (hmore : clears more " UNION ALL " = true)
    (h : ∀ x ∈ xs, ReadsAs d query (f x) (g x) more)
    (hbegins : ∀ x ∈ xs, BeginsWith "SELECT " (f x)) :
    ReadsAs d command (Sql.joined " UNION ALL " (xs.map f)) (.query (xs.map g))
      (" UNION ALL " :: more) := by
  have hselect : BeginsWith "SELECT " (Sql.joined " UNION ALL " (xs.map f)) :=
    beginsWith_joined hne (fun x hx => (h x hx).aligned) hbegins
  refine .ahead_false (fun index rest _ => hselect.not_isPrefixOf (by decide) ..) ?_
  refine .ahead_false (fun index rest _ => hselect.not_isPrefixOf (by decide) ..) ?_
  exact .ahead_true hselect ((ReadsAs.separated hmore hne h).map _)

lemma readsAs_select {e : Entity} (he : LegibleEntity e) {selection : Selection}
    (hselection : LegibleSelection selection) {groups : List (List Match)} (hne : groups ≠ [])
    (hgroups : ∀ group ∈ groups, group ≠ [] ∧ LegibleMatches group) :
    ReadsAs d command ((Step.select e selection groups).toSql d)
      (.query (groups.map fun group =>
        ⟨columnsOf selection, e.table.parts, .groups [group.map (matchTest aliased)]⟩))
      [" UNION ALL ", " AND "] := by
  refine readsAs_command_query hne (by decide) (fun group hgroup => ?_) fun group _ => ?_
  · have htests := readsAs_groupSql (d := d) qualifies_alias (hgroups group hgroup).1
      (hgroups group hgroup).2
    have hwhere := beginsWith_text_append " a WHERE " (groupSql d "a." group)
    simp only [toString_text, ReadsAs.text_append_append]
    refine readsAs_query he hselection (hwhere.follows (by decide)) ?_
    exact .choose_this hwhere (.exactly _ (htests.map _))
  · simp only [toString_text, beginsWith_text_append_append]
    exact beginsWith_text_append _ _

lemma readsAs_selectStaged {e : Entity} (he : LegibleEntity e) {selection : Selection}
    (hselection : LegibleSelection selection) {columns : List Field} (hne : columns ≠ [])
    (hcolumns : ∀ f ∈ columns, Legible f.part) {temp : String}
    (htemp : Ident.isPlain temp.toList = true) :
    ReadsAs d command ((Step.selectStaged e selection columns temp).toSql d)
      (.query [⟨columnsOf selection, e.table.parts,
        .joined (.plain temp) (columns.map (sameTest aliased))⟩])
      [" UNION ALL ", " AND "] := by
  have hon : ReadsAs d tests (Sql.text (joinText d "a" "b" columns))
      (columns.map (sameTest aliased)) [" AND "] :=
    readsAs_joinText qualifies_alias hne hcolumns
  have hquery : ReadsAs d query ((Step.selectStaged e selection columns temp).toSql d)
      ⟨columnsOf selection, e.table.parts, .joined (.plain temp) (columns.map (sameTest aliased))⟩
      [" AND "] := by
    have hjoin := beginsWith_text_append " a INNER JOIN "
      (Sql.text temp ++ (Sql.text " b ON " ++ Sql.text (joinText d "a" "b" columns)))
    simp only [Step.toSql, toString_text, ReadsAs.text_append, ReadsAs.text_append_append]
    refine readsAs_query he hselection (hjoin.follows (by decide)) ?_
    refine .choose_next " a INNER JOIN " hjoin (by decide) ?_
    exact .choose_this hjoin (.exactly _ (readsAs_joinedBy htemp (by decide) hon))
  have hselect : BeginsWith "SELECT " ((Step.selectStaged e selection columns temp).toSql d) := by
    simp only [Step.toSql, toString_text]
    refine ⟨_, by simp; rfl⟩
  have hread := @readsAs_command_query d _ (fun _ : Unit => _) (fun _ => _) [()] (by simp) _
    (by decide) (fun _ _ => hquery) fun _ _ => hselect
  simpa using hread

/-! ### Temporary tables -/

lemma readsAs_dropTemp {temp : String} (htemp : Ident.isPlain temp.toList = true) :
    ReadsAs d command ((Step.dropTemp temp).toSql d) (.drop (.plain temp)) [] := by
  have hhead : "DROP TABLE IF EXISTS " = "DROP " ++ "TABLE IF EXISTS " := by decide
  simp only [Step.toSql, toString_text, ReadsAs.text_append]
  have hdrop : BeginsWith "DROP " (Sql.text "DROP TABLE IF EXISTS " ++ Sql.text temp) := by
    rw [hhead, beginsWith_text_append_append]
    exact beginsWith_text_append _ _
  refine .ahead_false (fun index rest _ => hdrop.not_isPrefixOf (by decide) ..) ?_
  refine .ahead_false (fun index rest _ => hdrop.not_isPrefixOf (by decide) ..) ?_
  refine .ahead_false (fun index rest _ => hdrop.not_isPrefixOf (by decide) ..) ?_
  refine .ahead_true hdrop (.exactly _ ?_)
  exact (ReadsAs.part (p := .plain temp) htemp).map _

/-- The definition of a temporary table is passed over. -/
lemma readStatement_createTemp {temp : String} (htemp : Ident.isPlain temp.toList = true)
    (columns : List Field) (keyed : Bool) :
    readStatement d ((Step.createTemp temp columns keyed).build d)
      = some (.create (.plain temp)) := by
  have hddl : ∃ body, tempTableDdl temp columns keyed d
      = "CREATE TEMPORARY TABLE IF NOT EXISTS " ++ (temp ++ (" (" ++ body)) := by
    unfold tempTableDdl
    extract_lets definitions indexes body
    exact ⟨body ++ (")" ++ d.tempTableSuffix), by simp only [toString_text, String.append_assoc]⟩
  obtain ⟨body, hbody⟩ := hddl
  have hsql : (Step.createTemp temp columns keyed).build d
      = ⟨"CREATE TEMPORARY TABLE IF NOT EXISTS " ++ (temp ++ (" (" ++ body)), []⟩ := by
    simp [Step.build, Step.toSql, Sql.build, Sql.render, Sql.text, Sql.texts, hbody]
  have hpart : part ⟨d, []⟩ ⟨temp.toList ++ (" (".toList ++ body.toList), 0⟩
      = some (.plain temp, ⟨" (".toList ++ body.toList, 0⟩) :=
    @run_part (.plain temp) htemp ⟨d, []⟩ _ [] (ends_append_of_clears (by decide) _) 0
  have hcreated : created ⟨d, []⟩
      ⟨"CREATE TEMPORARY TABLE IF NOT EXISTS ".toList ++
        (temp.toList ++ (" (".toList ++ body.toList)), 0⟩
      = some (.plain temp, ⟨body.toList, 0⟩) := by
    rw [created, run_bind, run_exactly, Option.bind_some, run_bind, hpart, Option.bind_some,
      run_bind, run_exactly]
    rfl
  have hother {s : String}
      (hs : differ s.toList "CREATE TEMPORARY TABLE IF NOT EXISTS ".toList = true) :
      s.toList.isPrefixOf ("CREATE TEMPORARY TABLE IF NOT EXISTS ".toList ++
        (temp.toList ++ (" (".toList ++ body.toList))) = false :=
    not_isPrefixOf_of_differ hs _
  have hthis : "CREATE ".toList.isPrefixOf ("CREATE TEMPORARY TABLE IF NOT EXISTS ".toList ++
      (temp.toList ++ (" (".toList ++ body.toList))) = true := by
    simp [List.isPrefixOf]
  have hrun : command ⟨d, []⟩
      ⟨"CREATE TEMPORARY TABLE IF NOT EXISTS ".toList ++
        (temp.toList ++ (" (".toList ++ body.toList)), 0⟩
      = some (.create (.plain temp), ⟨[], 0⟩) := by
    rw [command, run_ahead, hother (by decide), if_neg Bool.false_ne_true, run_ahead,
      hother (by decide), if_neg Bool.false_ne_true, run_ahead, hother (by decide),
      if_neg Bool.false_ne_true, run_ahead, hother (by decide), if_neg Bool.false_ne_true,
      run_ahead, hthis, if_pos rfl, create, run_bind, hcreated]
    rfl
  rw [hsql, readStatement, readWith]
  simp only [String.toList_append, hrun]
  rfl

end QueryLoom.Dml

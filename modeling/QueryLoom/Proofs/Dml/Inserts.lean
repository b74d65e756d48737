import QueryLoom.Proofs.Dml.Conditions

/-!
# Inserted rows are read back

The rows of an insert are read cell by cell: a value in the place of its placeholder, or the
generator behind a call.
-/

namespace QueryLoom.Dml

variable {d : Dialect}

/-! ### Cells -/

lemma readsAs_value (v : Json) : ReadsAs d item (Sql.bind v) (.cell (.value v)) [] where
  aligned := rfl
  run before after rest hrest := by
    have hcontent : written d (before.length + 1) (Sql.bind v).content
        = (d.placeholder (before.length + 1)).toList := by
      change written d _ [.value v] = _
      simp [written]
    have hplaceholder : ("?".toList.isPrefixOf (written d (before.length + 1) (Sql.bind v).content
          ++ rest) || "$".toList.isPrefixOf (written d (before.length + 1) (Sql.bind v).content
          ++ rest)) = true := by
      rw [hcontent]
      cases d <;> simp [Dialect.placeholder, List.isPrefixOf]
    have hread := ((ReadsAs.placeholder (d := d) v).map fun v => Item.cell (.value v)).run before
      after rest hrest
    rw [item, run_ahead, run_ahead, if_pos hplaceholder]
    exact hread

lemma readsAs_dialect {α : Type} {f : Dialect → Reader α} {q : Sql} {a : α} {more : List String}
    (h : ReadsAs d (f d) q a more) : ReadsAs d (dialect >>= f) q a more :=
  ⟨h.aligned, h.run⟩

/-- An item that begins with a word is no placeholder. -/
lemma readsAs_word {p : IdentPart} (hp : Legible p) {q : Sql} {i : Item} {more : List String}
    (hfollows : Follows d q more [])
    (h : ReadsAs d (choose (generatorArguments.map fun arguments => (arguments,
      match generatorOf? d p.name arguments with
      | some g => return .cell (.generated g)
      | none => failure)) (return .column p)) q i more) :
    ReadsAs d item (Sql.text (p.toSql d) ++ q) i more := by
  refine .ahead_false (fun index rest _ => not_isPrefixOf_part hp (by decide) q index rest) ?_
  refine .ahead_false (fun index rest _ => not_isPrefixOf_part hp (by decide) q index rest) ?_
  exact (ReadsAs.part hp).bind (readsAs_dialect h) hfollows

/-- The call of a generator is a word with one of the known arguments. -/
lemma exists_expr_eq (d : Dialect) (g : KeyGenerator) :
    ∃ name arguments, g.expr d = name ++ arguments ∧ Ident.isPlain name.toList = true
      ∧ arguments ∈ generatorArguments ∧ generatorOf? d name arguments = some g := by
  cases g <;> cases d
  · exact ⟨"UUID", "()", by decide, by decide, by decide, by decide⟩
  · exact ⟨"gen_random_uuid", "()", by decide, by decide, by decide, by decide⟩
  · exact ⟨"lower", "(hex(randomblob(16)))", by decide, by decide, by decide, by decide⟩
  · exact ⟨"UUID_SHORT", "()", by decide, by decide, by decide, by decide⟩
  · exact ⟨"encode", "(uuid_send(gen_random_uuid()::uuid),'base64')", by decide, by decide,
      by decide, by decide⟩
  · exact ⟨"abs", "(random())", by decide, by decide, by decide, by decide⟩

/-- Of options that differ from each other the one that stands there is taken. -/
lemma readsAs_choose_of_mem {α : Type} {options : List String} {r : String → Reader α}
    {other : Reader α} {s : String} (hs : s ∈ options)
    (hdiffer : ∀ t ∈ options, t ≠ s → differ t.toList s.toList = true) {q : Sql} {a : α}
    {more : List String} (hbegins : BeginsWith s q)
    (h : ReadsAs d (exactly s >>= fun _ => r s) q a more) :
    ReadsAs d (choose (options.map fun t => (t, r t)) other) q a more := by
  induction options with
  | nil => cases hs
  | cons t options ih =>
    by_cases hts : t = s
    · subst hts
      exact .choose_this hbegins h
    · refine .choose_next s hbegins (hdiffer t List.mem_cons_self hts) (ih ?_ ?_)
      · exact (List.mem_cons.mp hs).resolve_left fun hst => hts hst.symm
      · exact fun u hu => hdiffer u (List.mem_cons_of_mem t hu)

/-- Where none of the options stands next, nothing is read. -/
lemma readsAs_choose_nothing {α : Type} {options more : List String} (hsub : options ⊆ more)
    {r : String → Reader α} {a : α} :
    ReadsAs d (choose (options.map fun t => (t, r t)) (return a)) Sql.empty a more := by
  induction options with
  | nil => exact .pure_empty a
  | cons t options ih =>
    refine .choose_other (fun index rest hends => ?_)
      (ih fun u hu => hsub (List.mem_cons_of_mem t hu))
    exact hends.not_more t (hsub List.mem_cons_self)

/-- The arguments of generators differ and end the word before them. -/
lemma generatorArguments_differ : ∀ s ∈ generatorArguments, clears [] s = true
    ∧ ∀ t ∈ generatorArguments, t ≠ s → differ t.toList s.toList = true := by
  decide

lemma readsAs_generated (g : KeyGenerator) :
    ReadsAs d item (Sql.text (g.expr d)) (.cell (.generated g)) [] := by
  obtain ⟨name, arguments, hexpr, hname, harguments, hgenerator⟩ := exists_expr_eq d g
  obtain ⟨hclears, hdiffer⟩ := generatorArguments_differ arguments harguments
  have hbegins : BeginsWith arguments (Sql.text arguments) := beginsWith_text arguments
  rw [hexpr, ReadsAs.text_append]
  refine readsAs_word (p := .plain name) hname (hbegins.follows hclears) ?_
  refine readsAs_choose_of_mem harguments hdiffer hbegins ?_
  simp only [IdentPart.name, hgenerator]
  exact .last_pure _ _ _

lemma readsAs_item (c : Cell) : ReadsAs d item (c.toSql d) (.cell c) [] :=
  match c with
  | .value v => readsAs_value v
  | .generated g => readsAs_generated g

lemma readsAs_cell (c : Cell) : ReadsAs d cell (c.toSql d) c [] :=
  (readsAs_item c).then_pure rfl

/-- A column of the source of a selection. -/
lemma readsAs_sourceColumn {p : IdentPart} (hp : Legible p) :
    ReadsAs d item (Sql.text (p.toSql d)) (.column p) generatorArguments := by
  change ReadsAs d item (Sql.text (p.toSql d) ++ Sql.empty) (.column p) generatorArguments
  refine readsAs_word hp (fun index rest hends => hends.mono (List.nil_subset _)) ?_
  exact readsAs_choose_nothing (List.Subset.refl _)

/-! ### Rows -/

lemma readsAs_rowSql {cells : List Cell} (hne : cells ≠ []) :
    ReadsAs d (separated ", " cell) (rowSql d cells) cells [", "] := by
  have hread := @ReadsAs.separated _ d _ cell (Cell.toSql d) id [] ", " (by decide) cells hne
    fun c _ => readsAs_cell c
  rwa [List.map_id] at hread

lemma readsAs_row {cells : List Cell} (hne : cells ≠ []) :
    ReadsAs d row (Sql.text "(" ++ rowSql d cells ++ Sql.text ")") cells [] := by
  rw [append_assoc]
  refine .exactly _ ((readsAs_rowSql hne).bind (.last_pure _ _ _) ?_)
  exact (beginsWith_text _).follows (by decide)

/-- The columns of some fields. -/
lemma readsAs_columnList {fs : List Field} (hne : fs ≠ []) (h : ∀ f ∈ fs, Legible f.part) :
    ReadsAs d (separated ", " part) (Sql.text (columnList fs d)) (fs.map (·.part)) [", "] :=
  .separated_text (by decide) hne fun f hf => .part (h f hf)

/-! ### Inserts of given rows -/

/-- The words that inserts begin with. -/
def insertWords : List String := ["INSERT INTO ", "REPLACE INTO ", "INSERT OR REPLACE INTO "]

lemma insertWords_differ : ∀ t ∈ insertWords,
    ∀ s ∈ ["UPDATE ", "DELETE ", "SELECT ", "DROP ", "CREATE "],
      differ s.toList t.toList = true := by
  decide

lemma readsAs_command_insert {t : String} (ht : t ∈ insertWords) {q : Sql}
    (hbegins : BeginsWith t q) {c : Command} {more : List String} (h : ReadsAs d insert q c more) :
    ReadsAs d command q c more := by
  have hother {s : String} (hs : s ∈ ["UPDATE ", "DELETE ", "SELECT ", "DROP ", "CREATE "])
      (index : Nat) (rest : List Char) :
      s.toList.isPrefixOf (written d index q.content ++ rest) = false :=
    hbegins.not_isPrefixOf (insertWords_differ t ht s hs) d index rest
  refine .ahead_false (fun index rest _ => hother (by simp) index rest) ?_
  refine .ahead_false (fun index rest _ => hother (by simp) index rest) ?_
  refine .ahead_false (fun index rest _ => hother (by simp) index rest) ?_
  refine .ahead_false (fun index rest _ => hother (by simp) index rest) ?_
  exact .ahead_false (fun index rest _ => hother (by simp) index rest) h

/-- Whether an insert that begins with a word replaces rows. -/
def replacesBy (word : String) : Bool := word != "INSERT INTO "

/-- What follows the columns of an insert. -/
def inserted (replaces : Bool) (table columns : List IdentPart) : Reader Command :=
  choose [
    (" VALUES ", do
      let rows ← separated ", " row
      let conflict? ← choose [(" ON CONFLICT (", return some (← conflict))] (return none)
      return .insert replaces table columns rows conflict?)] (do
    exactly " "
    let branches ← separated " UNION ALL " branch
    return .insertSelected table columns branches)

/-- The table and the columns of an insert, and what follows them. -/
lemma readsAs_insertInto {t : String} (ht : t ∈ insertWords) {table : String}
    {parts : List IdentPart} (htable : ReadsAs d path (Sql.text table) parts ["."])
    {columns : List Field} (hne : columns ≠ []) (hcolumns : ∀ f ∈ columns, Legible f.part)
    {q : Sql} {c : Command} {more : List String} (hbegins : BeginsWith ")" q)
    (h : ReadsAs d (exactly ")" >>= fun _ =>
      inserted (replacesBy t) parts (columns.map (·.part))) q c more) :
    ReadsAs d command (Sql.text t ++ (Sql.text table ++ (Sql.text " (" ++
      (Sql.text (columnList columns d) ++ q)))) c more := by
  have hinto : ReadsAs d (insertInto (replacesBy t)) (Sql.text table ++ (Sql.text " (" ++
      (Sql.text (columnList columns d) ++ q))) c more := by
    refine htable.bind (.exactly _ ?_) ((beginsWith_text_append _ _).follows (by decide))
    exact (readsAs_columnList hne hcolumns).bind h (hbegins.follows (by decide))
  have hword := beginsWith_text_append t (Sql.text table ++ (Sql.text " (" ++
    (Sql.text (columnList columns d) ++ q)))
  refine readsAs_command_insert ht hword ?_
  simp only [insertWords, List.mem_cons, List.not_mem_nil, or_false] at ht
  rcases ht with rfl | rfl | rfl
  · exact .choose_this hword (.exactly _ hinto)
  · exact .choose_next _ hword (by decide) (.choose_this hword (.exactly _ hinto))
  · refine .choose_next _ hword (by decide) (.choose_next _ hword (by decide) ?_)
    exact .choose_this hword (.exactly _ hinto)

lemma readsAs_rows {rows : List (List Cell)} (hne : rows ≠ []) (h : ∀ cells ∈ rows, cells ≠ []) :
    ReadsAs d (separated ", " row)
      (Sql.joined ", " (rows.map fun row => Sql.text "(" ++ rowSql d row ++ Sql.text ")")) rows
      [", "] := by
  have hread := @ReadsAs.separated _ d _ row
    (fun row => Sql.text "(" ++ rowSql d row ++ Sql.text ")") id [] ", " (by decide) rows hne
    fun cells hcells => readsAs_row (h cells hcells)
  rwa [List.map_id] at hread

/-- Rows without what happens where a key is taken. -/
lemma readsAs_values {replaces : Bool} {table columns : List IdentPart} {rows : List (List Cell)}
    (hne : rows ≠ []) (h : ∀ cells ∈ rows, cells ≠ []) :
    ReadsAs d (exactly ")" >>= fun _ => inserted replaces table columns)
      (Sql.text ")" ++ valuesSql d rows)
      (.insert replaces table columns rows none) [", ", " ON CONFLICT ("] := by
  refine .exactly _ (.choose_this (beginsWith_text_append _ _) (.exactly _ ?_))
  refine (readsAs_rows hne h).bind_end ?_ ?_
  · refine ReadsAs.then_pure (.choose_other (fun index rest hends => ?_) (.pure_empty none)) rfl
    exact hends.not_more " ON CONFLICT (" (by simp)
  · simp

/-- What happens where a key is taken. -/
def conflictOf (e : Entity) (columns : List Field) : Conflict :=
  ⟨e.primaryKeys.map (·.part), (columns.filter fun f => !f.primaryKey).map (·.part)⟩

lemma readsAs_updatedColumn {p : IdentPart} (hp : Legible p) :
    ReadsAs d updatedColumn (Sql.text (p.toSql d ++ " = EXCLUDED." ++ p.toSql d)) p [] := by
  rw [ReadsAs.text_append, ReadsAs.text_append_append]
  refine (ReadsAs.part hp).bind (.exactly _ ?_) ((beginsWith_text_append _ _).follows (by decide))
  exact (ReadsAs.part hp).then_pure (if_pos rfl)

lemma beginsWith_conflict (d : Dialect) (e : Entity) (columns : List Field) :
    BeginsWith " ON CONFLICT (" (Sql.text (conflictText d e columns)) := by
  unfold conflictText
  extract_lets updates target
  split_ifs
  · exact ⟨Symbol.ofText (target ++ ") DO NOTHING"), by simp⟩
  · exact ⟨Symbol.ofText (target ++ ") DO UPDATE SET " ++ ", ".intercalate updates), by simp⟩

lemma readsAs_conflict {e : Entity} (he : LegibleEntity e) (hkey : e.primaryKeys ≠ [])
    {columns : List Field} (hcolumns : ∀ f ∈ columns, Legible f.part) :
    ReadsAs d (choose [(" ON CONFLICT (", return some (← conflict))] (return none))
      (Sql.text (conflictText d e columns)) (some (conflictOf e columns)) [", "] := by
  have hkeys := readsAs_columnList (d := d) hkey he.primaryKeys
  have hupdated : ReadsAs d (exactly " ON CONFLICT (" >>= fun _ => conflict)
      (Sql.text (conflictText d e columns)) (conflictOf e columns) [", "] := by
    unfold conflictText conflictOf
    generalize hothers : (columns.filter fun f => !f.primaryKey) = others
    have hlegible : ∀ f ∈ others, Legible f.part := fun f hf =>
      hcolumns f (List.mem_of_mem_filter (hothers ▸ hf))
    simp only [toString_text, List.isEmpty_map]
    cases others with
    | nil =>
      have hhead : ") DO NOTHING" = ")" ++ " DO NOTHING" := by decide
      simp only [List.isEmpty_nil, if_true, ReadsAs.text_append, ReadsAs.text_append_append]
      refine .exactly _ (hkeys.bind ?_ ((beginsWith_text _).follows (by decide)))
      rw [hhead, ReadsAs.text_append]
      exact .exactly _ (.choose_this (beginsWith_text _) (.last_pure _ _ _))
    | cons f others =>
      have hhead : ") DO UPDATE SET " = ")" ++ " DO UPDATE SET " := by decide
      have hread : ReadsAs d (separated ", " updatedColumn) (Sql.text (", ".intercalate
          ((f :: others).map fun f => f.columnSql d ++ " = EXCLUDED." ++ f.columnSql d)))
          ((f :: others).map (·.part)) [", "] :=
        .separated_text (by decide) (by simp) fun g hg => readsAs_updatedColumn (hlegible g hg)
      simp only [List.isEmpty_cons, Bool.false_eq_true, if_false, ReadsAs.text_append,
        ReadsAs.text_append_append]
      refine .exactly _ (hkeys.bind ?_ ((beginsWith_text_append _ _).follows (by decide)))
      rw [hhead, ReadsAs.text_append_append]
      refine .exactly _ (.choose_next _ (beginsWith_text_append _ _) (by decide) ?_)
      exact .choose_this (beginsWith_text_append _ _) (.exactly _ (hread.map _))
  have hsome := hupdated.map some
  rw [bind_assoc] at hsome
  exact .choose_this (beginsWith_conflict d e columns) hsome

lemma readsAs_insert {e : Entity} (he : LegibleEntity e) {columns : List Field} (hne : columns ≠ [])
    (hcolumns : ∀ f ∈ columns, Legible f.part) {rows : List (List Cell)} (hrows : rows ≠ [])
    (hcells : ∀ cells ∈ rows, cells ≠ []) :
    ReadsAs d command ((Step.insert e columns rows).toSql d)
      (.insert false e.table.parts (columns.map (·.part)) rows none) [", ", " ON CONFLICT ("] := by
  simp only [Step.toSql, toString_text, ReadsAs.text_append_append]
  exact readsAs_insertInto (by decide) he.readsAs_table hne hcolumns (beginsWith_text_append _ _)
    (readsAs_values hrows hcells)

lemma readsAs_fillTemp {temp : String} (htemp : Ident.isPlain temp.toList = true)
    {columns : List Field} (hne : columns ≠ []) (hcolumns : ∀ f ∈ columns, Legible f.part)
    {rows : List (List Cell)} (hrows : rows ≠ []) (hcells : ∀ cells ∈ rows, cells ≠ []) :
    ReadsAs d command ((Step.fillTemp temp columns rows).toSql d)
      (.insert false [.plain temp] (columns.map (·.part)) rows none) [", ", " ON CONFLICT ("] := by
  have htable := qualifies_none (d := d) (.plain temp) htemp
  rw [String.empty_append] at htable
  simp only [Step.toSql, toString_text, ReadsAs.text_append_append]
  exact readsAs_insertInto (by decide) htable hne hcolumns (beginsWith_text_append _ _)
    (readsAs_values hrows hcells)

lemma readsAs_replace {e : Entity} (he : LegibleEntity e) {columns : List Field}
    (hne : columns ≠ []) (hcolumns : ∀ f ∈ columns, Legible f.part) {rows : List (List Cell)}
    (hrows : rows ≠ []) (hcells : ∀ cells ∈ rows, cells ≠ [])
    (hkey : d.replaceInto? = none → e.primaryKeys ≠ []) :
    ReadsAs d command ((Step.replace e columns rows).toSql d)
      (.insert d.replaceInto?.isSome e.table.parts (columns.map (·.part)) rows
        (if d.replaceInto?.isSome then none else some (conflictOf e columns)))
      [", ", " ON CONFLICT ("] := by
  cases d with
  | mysql =>
    have hhead : "REPLACE INTO" ++ " " = "REPLACE INTO " := by decide
    simp only [Step.toSql, Dialect.replaceInto?, toString_text, hhead, ReadsAs.text_append_append]
    exact readsAs_insertInto (by decide) he.readsAs_table hne hcolumns (beginsWith_text_append _ _)
      (readsAs_values hrows hcells)
  | sqlite =>
    have hhead : "INSERT OR REPLACE INTO" ++ " " = "INSERT OR REPLACE INTO " := by decide
    simp only [Step.toSql, Dialect.replaceInto?, toString_text, hhead, ReadsAs.text_append_append]
    exact readsAs_insertInto (by decide) he.readsAs_table hne hcolumns (beginsWith_text_append _ _)
      (readsAs_values hrows hcells)
  | postgres =>
    have hreplaced : ReadsAs .postgres (inserted false e.table.parts (columns.map (·.part)))
        (valuesSql .postgres rows ++ Sql.text (conflictText .postgres e columns))
        (.insert false e.table.parts (columns.map (·.part)) rows (some (conflictOf e columns)))
        [", "] := by
      have hconflict := readsAs_conflict (d := .postgres) he (hkey rfl) hcolumns
      rw [valuesSql, append_assoc]
      refine .choose_this (beginsWith_text_append _ _) (.exactly _ ?_)
      refine (readsAs_rows hrows hcells).bind (hconflict.map _) ?_
      exact (beginsWith_conflict .postgres e columns).follows (by decide)
    simp only [Step.toSql, Dialect.replaceInto?, toString_text, append_assoc,
      ReadsAs.text_append_append]
    exact readsAs_insertInto (by decide) he.readsAs_table hne hcolumns (beginsWith_text_append _ _)
      (.exactly _ (hreplaced.mono (by simp)))

/-! ### Inserts of selected rows -/

/-- The table that constants are selected from, as it is written. -/
def fromDual (d : Dialect) : String :=
  match d.dual? with
  | some table => s!" FROM {table}"
  | none => ""

/-- A selection of values that is inserted unless the table has a row that passes the tests. -/
def absentBranch (d : Dialect) (e : Entity) (cells : List Cell) (checks : List Match) : Branch :=
  ⟨cells.map .cell, d.dual?.map .plain, some (e.table.parts, checks.map equalTest)⟩

/-- A selection of all rows of a temporary table. -/
def copyBranch (columns : List Field) (temp : String) : Branch :=
  ⟨columns.map fun f => .column f.part, some (.plain temp), none⟩

lemma readsAs_exception {e : Entity} (he : LegibleEntity e) {checks : List Match}
    (hne : checks ≠ []) (h : LegibleMatches checks) :
    ReadsAs d exception (Sql.text (e.tableSql d) ++ (Sql.text " WHERE " ++
      (keySql d checks ++ Sql.text ")"))) (e.table.parts, checks.map equalTest) [] := by
  refine he.readsAs_table.bind (.exactly _ ?_) ((beginsWith_text_append _ _).follows (by decide))
  exact (readsAs_keySql hne h).bind (.last_pure _ _ _) ((beginsWith_text _).follows (by decide))

lemma readsAs_items {cells : List Cell} (hne : cells ≠ []) :
    ReadsAs d (separated ", " item) (rowSql d cells) (cells.map .cell) [", "] :=
  .separated (by decide) hne fun c _ => readsAs_item c

lemma readsAs_absentBranch {e : Entity} (he : LegibleEntity e) {cells : List Cell}
    (hcells : cells ≠ []) {checks : List Match} (hne : checks ≠ []) (h : LegibleMatches checks) :
    ReadsAs d branch
      (Sql.text "SELECT " ++ rowSql d cells ++
        Sql.text s!"{fromDual d} WHERE NOT EXISTS (SELECT 1 FROM {e.tableSql d} WHERE " ++
        keySql d checks ++ Sql.text ")")
      (absentBranch d e cells checks) [] := by
  have hexception := readsAs_exception (d := d) he hne h
  have hitems := readsAs_items (d := d) hcells
  have hwhere := beginsWith_text_append " WHERE NOT EXISTS (SELECT 1 FROM "
    (Sql.text (e.tableSql d) ++ (Sql.text " WHERE " ++ (keySql d checks ++ Sql.text ")")))
  simp only [append_assoc]
  cases d with
  | mysql =>
    simp only [fromDual, Dialect.dual?, toString_text]
    refine .exactly _ (hitems.bind ?_ ?_)
    · simp only [ReadsAs.text_append_append]
      refine .choose_next _ (beginsWith_text_append _ _) (by decide) ?_
      refine .choose_this (beginsWith_text_append _ _) (.exactly _ ?_)
      refine (ReadsAs.part (p := .plain "DUAL") rfl).bind ?_ (hwhere.follows (by decide))
      exact .choose_this hwhere (.exactly _ (hexception.map _))
    · refine BeginsWith.follows (s := " FROM ") ?_ (by decide)
      simp only [beginsWith_text_append_append]
      exact beginsWith_text_append _ _
  | postgres | sqlite =>
    simp only [fromDual, Dialect.dual?, toString_text, String.empty_append]
    refine .exactly _ (hitems.bind ?_ ?_)
    · simp only [ReadsAs.text_append_append]
      exact .choose_this hwhere (.exactly _ (hexception.map _))
    · refine BeginsWith.follows (s := " WHERE NOT EXISTS (SELECT 1 FROM ") ?_ (by decide)
      simp only [beginsWith_text_append_append]
      exact beginsWith_text_append _ _

/-- Selections whose rows are inserted. -/
lemma readsAs_branches {α : Type} {f : α → Sql} {g : α → Branch} {xs : List α} (hne : xs ≠ [])
    {more : List String} (hmore : clears more " UNION ALL " = true)
    (h : ∀ x ∈ xs, ReadsAs d branch (f x) (g x) more)
    (hbegins : ∀ x ∈ xs, BeginsWith "SELECT " (f x)) {replaces : Bool}
    {table columns : List IdentPart} :
    ReadsAs d (inserted replaces table columns)
      (Sql.text " " ++ Sql.joined " UNION ALL " (xs.map f))
      (.insertSelected table columns (xs.map g)) (" UNION ALL " :: more) := by
  have hselect : BeginsWith " SELECT " (Sql.text " " ++ Sql.joined " UNION ALL " (xs.map f)) :=
    (beginsWith_joined hne (fun x hx => (h x hx).aligned) hbegins).text_append " "
  refine .choose_next _ hselect (by decide) (.exactly _ ?_)
  exact (ReadsAs.separated hmore hne h).map _

lemma readsAs_insertAbsent {e : Entity} (he : LegibleEntity e) {columns : List Field}
    (hne : columns ≠ []) (hcolumns : ∀ f ∈ columns, Legible f.part)
    {rows : List (List Cell × List Match)} (hrows : rows ≠ [])
    (hrow : ∀ row ∈ rows, row.1 ≠ [] ∧ row.2 ≠ [] ∧ LegibleMatches row.2) :
    ReadsAs d command ((Step.insertAbsent e columns rows).toSql d)
      (.insertSelected e.table.parts (columns.map (·.part))
        (rows.map fun row => absentBranch d e row.1 row.2)) [" UNION ALL "] := by
  have hhead : ") " = ")" ++ " " := by decide
  simp only [Step.toSql, toString_text, ReadsAs.text_append_append]
  refine readsAs_insertInto (t := "INSERT INTO ") (by decide) he.readsAs_table hne hcolumns ?_ ?_
  · rw [hhead, beginsWith_text_append_append]
    exact beginsWith_text_append _ _
  rw [hhead, ReadsAs.text_append_append]
  refine .exactly _ (readsAs_branches hrows (by decide) (fun row hmem => ?_) fun row _ => ?_)
  · obtain ⟨hcells, hchecks, hlegible⟩ := hrow row hmem
    exact readsAs_absentBranch he hcells hchecks hlegible
  · simp only [append_assoc]
    exact beginsWith_text_append _ _

lemma readsAs_copyBranch {columns : List Field} (hne : columns ≠ [])
    (hcolumns : ∀ f ∈ columns, Legible f.part) {temp : String}
    (htemp : Ident.isPlain temp.toList = true) :
    ReadsAs d branch (Sql.text "SELECT " ++ (Sql.text (columnList columns d) ++
      (Sql.text " FROM " ++ Sql.text temp))) (copyBranch columns temp)
      [" WHERE NOT EXISTS (SELECT 1 FROM "] := by
  have hfrom := beginsWith_text_append " FROM " (Sql.text temp)
  have hitems : ReadsAs d (separated ", " item) (Sql.text (columnList columns d))
      (columns.map fun f => .column f.part) (", " :: generatorArguments) :=
    .separated_text (by decide) hne fun f hf => readsAs_sourceColumn (hcolumns f hf)
  refine .exactly _ (hitems.bind ?_ (hfrom.follows (by decide)))
  refine .choose_next _ hfrom (by decide) (.choose_this hfrom (.exactly _ ?_))
  refine (ReadsAs.part (p := .plain temp) htemp).bind_end ?_ (List.nil_subset _)
  refine .choose_other (fun index rest hends => ?_) (.pure_empty _)
  exact hends.not_more _ List.mem_cons_self

lemma readsAs_insertStaged {e : Entity} (he : LegibleEntity e) {columns : List Field}
    (hne : columns ≠ []) (hcolumns : ∀ f ∈ columns, Legible f.part) {temp : String}
    (htemp : Ident.isPlain temp.toList = true) :
    ReadsAs d command ((Step.insertStaged e columns temp).toSql d)
      (.insertSelected e.table.parts (columns.map (·.part)) [copyBranch columns temp])
      [" UNION ALL ", " WHERE NOT EXISTS (SELECT 1 FROM "] := by
  have hbranches := @readsAs_branches d _ (fun _ : Unit => _) (fun _ => _) [()] (by simp) _
    (by decide) (fun _ _ => readsAs_copyBranch hne hcolumns htemp)
    (fun _ _ => beginsWith_text_append _ _) false e.table.parts (columns.map (·.part))
  have hhead : ") SELECT " = ")" ++ (" " ++ "SELECT ") := by decide
  simp only [Step.toSql, toString_text, ReadsAs.text_append, ReadsAs.text_append_append]
  refine readsAs_insertInto (t := "INSERT INTO ") (by decide) he.readsAs_table hne hcolumns ?_ ?_
  · rw [hhead, beginsWith_text_append_append]
    exact beginsWith_text_append _ _
  rw [hhead, ReadsAs.text_append_append]
  refine .exactly _ ?_
  rw [ReadsAs.text_append_append]
  exact hbranches

end QueryLoom.Dml

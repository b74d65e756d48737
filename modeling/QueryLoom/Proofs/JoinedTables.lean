import QueryLoom.Proofs.Dml.Joins
import QueryLoom.Proofs.Dml.Meaning

/-!
# Names of joined tables

A column is written behind the name of its table. That name is looked up among the tables of the
query where the column stands, and then among those of the statement around it. A query within a
statement names the temporary table `b`, so it captures the columns of a table that has this name
itself: both sides of a comparison are then one column, and every row is addressed.
-/

namespace QueryLoom.Dml

/-! ### Looking up tables -/

/-- Names as the engine compares them. -/
def names (d : Dialect) (parts : List IdentPart) : List String := parts.map (columnName d)

/-- What a table goes by: its alias, or else its own name. -/
def NamedTable.name? (t : NamedTable) : Option IdentPart := t.alias?.or t.path.getLast?

/-- Whether a table is meant: by what it goes by, alone or behind the schema. -/
def NamedTable.answers (d : Dialect) (owner : List IdentPart) (t : NamedTable) : Bool :=
  t.name?.any fun name =>
    names d owner = names d [name] || names d owner = names d (t.path.dropLast ++ [name])

namespace Join

variable (d : Dialect) (g : Engine) (j : Join)

/-- The tables that are named together, from the inside outwards. -/
def scopes : List (List NamedTable) :=
  if j.nested then [[j.inner], [j.outer]] else [[j.outer, j.inner]]

/-- The table of a column. -/
def resolve? (owner : List IdentPart) : Option NamedTable :=
  j.scopes.findSome? fun tables => tables.find? (·.answers d owner)

/-- Each comparison is one of a column of the outer table with a column of the inner one. -/
def Relates : Prop :=
  ∀ c ∈ j.on, j.resolve? d c.left.owner = some j.outer ∧ j.resolve? d c.right.owner = some j.inner

/-- A comparison certainly holds of some rows, one of each table. -/
def Holds (rows : NamedTable → TableRow) (c : Comparison) : Prop :=
  ∃ t u, j.resolve? g.dialect c.left.owner = some t ∧ j.resolve? g.dialect c.right.owner = some u ∧
    g.compareNulls (g.valueOf (rows t) c.left.column) (g.valueOf (rows u) c.right.column) = .yes

/-- The comparisons hold of any rows. -/
def Vacuous : Prop := ∀ rows, ∀ c ∈ j.on, j.Holds g rows c

/-- The tables and columns of a join are those of an entity and a temporary table. -/
structure Joins (e : Entity) (temp : String) (fields : List Field) : Prop where
  outer : j.outer.path = e.table.parts
  inner : j.inner.path.getLast? = some (.plain temp)
  on : j.on.map (fun c => (c.left.column, c.right.column)) = fields.map fun f => (f.part, f.part)

end Join

/-- The table of an entity has the name of the temporary table in a query within a statement. -/
def Captured (d : Dialect) (e : Entity) : Prop :=
  d = .sqlite ∧ (names d e.table.parts = ["b"] ∨ names d e.table.parts = ["temp", "b"])

variable {d : Dialect} {g : Engine} {e : Entity} {j : Join} {temp : String} {fields : List Field}

/-! ### What tables answer to -/

lemma answers_stagedAs (owner : List IdentPart) :
    (stagedAs temp).answers d owner = true ↔
      names d owner = ["b"] ∨ names d owner = ["temp", "b"] := by
  have hname : names d [.plain "b"] = ["b"] := by cases d <;> decide
  have hpath : names d [.plain "temp", .plain "b"] = ["temp", "b"] := by cases d <;> decide
  change (decide (names d owner = names d [.plain "b"]) ||
    decide (names d owner = names d [.plain "temp", .plain "b"])) = true ↔ _
  rw [hname, hpath, Bool.or_eq_true, decide_eq_true_iff, decide_eq_true_iff]

lemma answers_aliasedAs : (aliasedAs e).answers d aliased = true := by
  simp [NamedTable.answers, NamedTable.name?, aliasedAs, aliased]

lemma not_answers_aliasedAs : (aliasedAs e).answers d [.plain "b"] = false := by
  have ha : columnName d (.plain "a") = "a" := by cases d <;> decide
  have hb : columnName d (.plain "b") = "b" := by cases d <;> decide
  have hlast (schema : List String) : ["b"] ≠ schema ++ ["a"] := by
    intro h
    simpa using congrArg List.getLast? h
  simp [NamedTable.answers, NamedTable.name?, aliasedAs, names, ha, hb, hlast]

/-- A table without an alias is meant by its path. -/
lemma answers_path {path : List IdentPart} (hne : path ≠ []) :
    (NamedTable.mk path none).answers d path = true := by
  obtain ⟨schema, name, rfl⟩ : ∃ schema name, path = schema ++ [name] :=
    ⟨path.dropLast, path.getLast hne, (List.dropLast_append_getLast hne).symm⟩
  simp [NamedTable.answers, NamedTable.name?]

/-! ### Joins -/

lemma Engine.compareNulls_self (g : Engine) (hequal : ∀ v, g.equal v v = true) (v : Json) :
    g.compareNulls v v = .yes := by
  rw [compareNulls]
  cases v.isNull <;> simp [hequal]

/-- Of rows that differ, a comparison that relates two tables does not hold. -/
lemma Join.Relates.not_vacuous (h : j.Relates g.dialect) (hne : j.on ≠ [])
    (htables : j.outer ≠ j.inner) : ¬ j.Vacuous g := by
  intro hvacuous
  obtain ⟨c, rest, hon⟩ := List.exists_cons_of_ne_nil hne
  have hc : c ∈ j.on := hon ▸ List.mem_cons_self
  obtain ⟨hleft, hright⟩ := h c hc
  obtain ⟨t, u, ht, hu, hholds⟩ :=
    hvacuous (fun t _ => if t = j.outer then .null else .int 1) c hc
  obtain rfl := Option.some.inj (hleft.symm.trans ht)
  obtain rfl := Option.some.inj (hright.symm.trans hu)
  simp [Engine.compareNulls, Engine.valueOf, Json.isNull, htables.symm, Truth.ofBool] at hholds

lemma joins_of_comparisonOf {outer : NamedTable} (houter : outer.path = e.table.parts)
    (nested : Bool) (owner : List IdentPart) :
    (Join.mk outer (stagedAs temp) nested (fields.map (comparisonOf owner))).Joins e temp fields :=
  ⟨houter, rfl, by simp [comparisonOf]⟩

/-- Both tables beside each other, with aliases of their own. -/
def beside (e : Entity) (fields : List Field) (temp : String) : Join :=
  ⟨aliasedAs e, stagedAs temp, false, fields.map (comparisonOf aliased)⟩

/-- Beside each other, tables with aliases of their own are told apart. -/
lemma relates_beside : (beside e fields temp).Relates d := by
  intro c hc
  obtain ⟨f, -, rfl⟩ := List.mem_map.mp hc
  have hb : (stagedAs temp).answers d [.plain "b"] = true :=
    (answers_stagedAs _).mpr (.inl (by cases d <;> decide))
  constructor
  · simp [beside, Join.resolve?, Join.scopes, comparisonOf, answers_aliasedAs]
  · simp [beside, Join.resolve?, Join.scopes, comparisonOf, not_answers_aliasedAs, hb]

lemma not_vacuous_beside (hfields : fields ≠ []) : ¬ (beside e fields temp).Vacuous g :=
  relates_beside.not_vacuous (by simpa [beside] using hfields)
    (by simp [beside, aliasedAs, stagedAs])

/-- A query within a statement captures the columns of a table that is named like its own. -/
lemma resolve?_within (hne : e.table.parts ≠ []) (on : List Comparison) :
    (Join.mk ⟨e.table.parts, none⟩ (stagedAs temp) true on).resolve? .sqlite e.table.parts =
      some (if (stagedAs temp).answers .sqlite e.table.parts then stagedAs temp
        else ⟨e.table.parts, none⟩) := by
  have hpath := answers_path (d := .sqlite) hne
  cases hinner : (stagedAs temp).answers .sqlite e.table.parts <;>
    simp [Join.resolve?, Join.scopes, hinner, hpath]

lemma resolve?_staged (outer : NamedTable) (on : List Comparison) :
    (Join.mk outer (stagedAs temp) true on).resolve? .sqlite [.plain "b"]
      = some (stagedAs temp) := by
  have hb : (stagedAs temp).answers .sqlite [.plain "b"] = true :=
    (answers_stagedAs _).mpr (.inl (by decide))
  simp [Join.resolve?, Join.scopes, hb]

/-- A query within a statement relates the tables exactly if it captures no columns, and otherwise
compares every column with itself. -/
lemma relates_within (temp : String) (hne : e.table.parts ≠ []) (hfields : fields ≠ [])
    (hequal : ∀ v, g.equal v v = true) (hd : g.dialect = .sqlite) :
    let j : Join := ⟨⟨e.table.parts, none⟩, stagedAs temp, true,
      fields.map (comparisonOf e.table.parts)⟩
    (j.Relates g.dialect ↔ ¬ Captured g.dialect e) ∧ (j.Vacuous g ↔ Captured g.dialect e) := by
  intro j
  have hcaptured : Captured g.dialect e ↔
      (stagedAs temp).answers .sqlite e.table.parts = true := by
    rw [answers_stagedAs, Captured, hd]
    simp
  have htables : j.outer ≠ j.inner := by simp [j, stagedAs]
  have hon : j.on ≠ [] := by simpa [j] using hfields
  cases hinner : (stagedAs temp).answers .sqlite e.table.parts with
  | false =>
    have hrelates : j.Relates g.dialect := by
      intro c hc
      obtain ⟨f, -, rfl⟩ := List.mem_map.mp hc
      rw [hd]
      refine ⟨?_, resolve?_staged _ _⟩
      exact (resolve?_within hne _).trans (by rw [hinner]; rfl)
    simp [hcaptured, hinner, hrelates, hrelates.not_vacuous hon htables]
  | true =>
    have hvacuous : j.Vacuous g := by
      intro rows c hc
      obtain ⟨f, -, rfl⟩ := List.mem_map.mp hc
      refine ⟨stagedAs temp, stagedAs temp, ?_, ?_, ?_⟩
      · rw [hd]
        exact (resolve?_within hne _).trans (by rw [hinner]; rfl)
      · rw [hd]
        exact resolve?_staged _ _
      · exact g.compareNulls_self hequal _
    have hnot : ¬ j.Relates g.dialect := fun h => h.not_vacuous hon htables hvacuous
    simp [hcaptured, hinner, hnot, hvacuous]

/-- A delete relates the tables exactly if it captures no columns, and otherwise compares every
column with itself. -/
lemma relates_deleteJoin (temp : String) (htable : e.table.parts ≠ []) (hfields : fields ≠ [])
    (hequal : ∀ v, g.equal v v = true) :
    (deleteJoin g.dialect e fields temp).Joins e temp fields ∧
      ((deleteJoin g.dialect e fields temp).Relates g.dialect ↔ ¬ Captured g.dialect e) ∧
      ((deleteJoin g.dialect e fields temp).Vacuous g ↔ Captured g.dialect e) := by
  by_cases hd : g.dialect = .sqlite
  · have hwithin := relates_within temp htable hfields hequal hd
    have hjoin : deleteJoin g.dialect e fields temp = ⟨⟨e.table.parts, none⟩, stagedAs temp, true,
        fields.map (comparisonOf e.table.parts)⟩ := by rw [hd]; rfl
    rw [hjoin]
    exact ⟨joins_of_comparisonOf rfl true _, hwithin⟩
  · have hjoin : deleteJoin g.dialect e fields temp = beside e fields temp := by
      cases hdialect : g.dialect with
      | sqlite => exact absurd hdialect hd
      | mysql => rfl
      | postgres => rfl
    have hcaptured : ¬ Captured g.dialect e := fun h => hd h.1
    rw [hjoin]
    exact ⟨joins_of_comparisonOf rfl false _, iff_of_true relates_beside hcaptured,
      iff_of_false (not_vacuous_beside hfields) hcaptured⟩

/-- What the statements relate that join the table of an entity with a temporary table. A delete
compares each column with that of the temporary table, unless the dialect is SQLite and the table of
the entity is named `b`: then each column is compared with itself, which holds of any rows. A select
always compares the columns of both tables. -/
theorem joined_tables {decl : EntityDecl} (hdecl : decl.build = .ok e) (g : Engine)
    (hequal : ∀ v, g.equal v v = true) (hne : fields ≠ []) (hfields : ∀ f ∈ fields, f ∈ e.fields)
    (htemp : Ident.isPlain temp.toList = true) :
    (∀ mark? : Option Mark, (∀ mark ∈ mark?, mark.field ∈ e.fields) →
      ∃ j, readJoin g.dialect ((Step.deleteStaged e mark? fields temp).build g.dialect) = some j ∧
        j.Joins e temp fields ∧ (j.Relates g.dialect ↔ ¬ Captured g.dialect e) ∧
        (j.Vacuous g ↔ Captured g.dialect e)) ∧
    ∀ selection : Selection,
      (∀ columns, selection = .fields columns → columns ≠ [] ∧ ∀ f ∈ columns, f ∈ e.fields) →
      ∃ j, readJoin g.dialect ((Step.selectStaged e selection fields temp).build g.dialect)
          = some j ∧
        j.Joins e temp fields ∧ j.Relates g.dialect ∧ ¬ j.Vacuous g := by
  have he := (accepted_of_build hdecl).legible
  have hlegible : ∀ f ∈ fields, Legible f.part := fun f hf => he.fields f (hfields f hf)
  constructor
  · intro mark? hmark
    have hread := readJoin_deleteStaged he hne hlegible htemp
      (fun mark hm => he.fields mark.field (hmark mark hm)) g.dialect
    exact ⟨_, hread, relates_deleteJoin temp he.table_ne hne hequal⟩
  · intro selection hselection
    have hlegibleSelection : LegibleSelection selection := by
      cases selection with
      | count => trivial
      | fields columns =>
        obtain ⟨hcolumns, hmem⟩ := hselection columns rfl
        exact ⟨hcolumns, fun f hf => he.fields f (hmem f hf)⟩
    have hread := readJoin_selectStaged he hne hlegible htemp hlegibleSelection g.dialect
    exact ⟨beside e fields temp, hread, joins_of_comparisonOf rfl false _, relates_beside,
      not_vacuous_beside hne⟩

/-- Rows of order lines are deleted as they are staged. -/
theorem joined_tables_of_order_lines :
    ∃ j, readJoin .sqlite
        ((Step.deleteStaged orderLine none orderLine.primaryKeys "order_line_0").build .sqlite)
          = some j ∧
      j.Relates .sqlite := by
  have hfields : ∀ f ∈ orderLine.primaryKeys, f ∈ orderLine.fields :=
    fun f hf => List.mem_of_mem_filter hf
  have hcaptured : ¬ Captured .sqlite orderLine := by
    rintro ⟨-, h | h⟩ <;> revert h <;> decide
  obtain ⟨hdelete, -⟩ := joined_tables build_orderLine
    ⟨.sqlite, fun v w => v.compact == w.compact⟩ (fun v => beq_self_eq_true v.compact) (by decide)
    hfields (by decide : Ident.isPlain "order_line_0".toList = true)
  obtain ⟨j, hread, -, hrelates, -⟩ := hdelete none (by simp)
  exact ⟨j, hread, hrelates.mpr hcaptured⟩

/-- In a table `b` of SQLite every row is deleted as soon as one row is staged. -/
theorem joined_tables_captured :
    Captured .sqlite { orderLine with table := ⟨[.plain "b"]⟩ } ∧
      ((Step.deleteStaged { orderLine with table := ⟨[.plain "b"]⟩ } none orderLine.primaryKeys
        "b_0").build .sqlite).sql
          = "DELETE FROM b WHERE EXISTS (SELECT 1 FROM b_0 b WHERE " ++
            "b.order_id IS b.order_id AND b.line IS b.line)" :=
  ⟨⟨rfl, .inl (by decide)⟩, by decide⟩

end QueryLoom.Dml

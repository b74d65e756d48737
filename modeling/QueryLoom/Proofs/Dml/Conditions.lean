import QueryLoom.Proofs.Dml.Command

/-!
# Conditions are read back

The conditions of a statement are read as the tests they stand for: those of a key, those of a
group of values, and those of a join.
-/

namespace QueryLoom.Dml

/-! ### Trees of conditions -/

/-- The test that a column equals a value. -/
def equalTest (m : Match) : Test := .equal ⟨[], m.field.part⟩ m.value

/-- The test that a column has a value, which may be null. -/
def matchTest (owner : List IdentPart) (m : Match) : Test :=
  if m.value.isNull then .isNull ⟨owner, m.field.part⟩ else .equal ⟨owner, m.field.part⟩ m.value

/-- The test that a column equals that of the joined row. -/
def sameTest (owner : List IdentPart) (f : Field) : Test := .same ⟨owner, f.part⟩ f.part

/-- The alias of the table that is joined with a temporary one. -/
def aliased : List IdentPart := [.plain "a"]

/-- The rows with one of the given keys. -/
def keyScope (keys : List Field) (rows : List (List Match)) : Scope :=
  match keys with
  | [key] => .groups [[.among ⟨[], key.part⟩ (rows.flatMap fun row => row.map (·.value))]]
  | _ => .groups (rows.map fun row => row.map equalTest)

variable {d : Dialect}

@[simp] lemma toString_text (s : String) : toString s = s := rfl

/-! ### Paths -/

lemma readsAs_path {parts : List IdentPart} (hne : parts ≠ []) (h : ∀ p ∈ parts, Legible p) :
    ReadsAs d path (Sql.text (".".intercalate (parts.map (·.toSql d)))) parts ["."] := by
  have hread := @ReadsAs.separated_text _ d _ part (·.toSql d) id [] "." (by decide) parts hne
    fun p hp => ReadsAs.part (h p hp)
  rwa [List.map_id] at hread

/-- What is written before a column names its owner. -/
def Qualifies (d : Dialect) (qualifier : String) (owner : List IdentPart) : Prop :=
  ∀ p, Legible p → ReadsAs d path (Sql.text (qualifier ++ p.toSql d)) (owner ++ [p]) ["."]

lemma qualifies_path {parts : List IdentPart} (hne : parts ≠ []) (h : ∀ p ∈ parts, Legible p) :
    Qualifies d (".".intercalate (parts.map (·.toSql d)) ++ ".") parts := by
  intro p hp
  have hread : ReadsAs d path (Sql.text (".".intercalate ((parts ++ [p]).map (·.toSql d))))
      (parts ++ [p]) ["."] :=
    readsAs_path (by simp) fun q hq => by
      rcases List.mem_append.mp hq with hq | hq
      · exact h q hq
      · rwa [List.mem_singleton.mp hq]
  have htext : ".".intercalate ((parts ++ [p]).map (·.toSql d))
      = ".".intercalate (parts.map (·.toSql d)) ++ "." ++ p.toSql d := by
    rw [List.map_append, String.intercalate_append_of_ne_nil (by simpa using hne) (by simp)]
    simp
  rwa [htext] at hread

lemma qualifies_none : Qualifies d "" [] := by
  intro p hp
  have hread : ReadsAs d path (Sql.text (".".intercalate ([p].map (·.toSql d)))) [p] ["."] :=
    readsAs_path (by simp) fun q hq => by rwa [List.mem_singleton.mp hq]
  simpa using hread

lemma qualifies_alias : Qualifies d "a." aliased := by
  have h : Qualifies d (".".intercalate (aliased.map (·.toSql d)) ++ ".") aliased :=
    qualifies_path (by simp [aliased]) fun p hp => by
      rw [List.mem_singleton.mp hp]
      rfl
  simpa [aliased, IdentPart.toSql] using h

/-- A qualified column is read together with its owner. -/
lemma Qualifies.columnRef {qualifier : String} {owner : List IdentPart}
    (h : Qualifies d qualifier owner) {p : IdentPart} (hp : Legible p) :
    ReadsAs d columnRef (Sql.text (qualifier ++ p.toSql d)) ⟨owner, p⟩ ["."] := by
  refine (h p hp).then_pure ?_
  simp

/-! ### Conditions -/

/-- All columns of the conditions are legible. -/
def LegibleMatches (ms : List Match) : Prop := ∀ m ∈ ms, Legible m.field.part

lemma readsAs_equalTo {qualifier : String} {owner : List IdentPart}
    (h : Qualifies d qualifier owner) {p : IdentPart} (hp : Legible p) (v : Json) :
    ReadsAs d test (Sql.text (qualifier ++ p.toSql d ++ " = ") ++ Sql.bind v)
      (.equal ⟨owner, p⟩ v) [] := by
  rw [ReadsAs.text_append_append]
  refine (h.columnRef hp).bind ?_ ((beginsWith_text_append _ _).follows (by decide))
  exact .choose_this (beginsWith_text_append _ _) (.exactly _ ((ReadsAs.placeholder v).map _))

lemma readsAs_isNull {qualifier : String} {owner : List IdentPart}
    (h : Qualifies d qualifier owner) {p : IdentPart} (hp : Legible p) :
    ReadsAs d test (Sql.text (qualifier ++ p.toSql d ++ " IS NULL")) (.isNull ⟨owner, p⟩) [] := by
  rw [ReadsAs.text_append]
  refine (h.columnRef hp).bind ?_ ((beginsWith_text _).follows (by decide))
  refine .choose_next " IS NULL" (beginsWith_text _) (by decide) ?_
  exact .choose_this (beginsWith_text _) (.last_pure _ _ _)

lemma readsAs_equal {m : Match} (hm : Legible m.field.part) :
    ReadsAs d test (m.equalSql d) (equalTest m) [] := by
  have hread := readsAs_equalTo (d := d) qualifies_none hm m.value
  rwa [String.empty_append] at hread

lemma readsAs_match {qualifier : String} {owner : List IdentPart}
    (h : Qualifies d qualifier owner) {m : Match} (hm : Legible m.field.part) :
    ReadsAs d test (m.toSql d qualifier) (matchTest owner m) [] := by
  unfold Match.toSql matchTest
  split_ifs with hnull
  · exact readsAs_isNull h hm
  · exact readsAs_equalTo h hm m.value

/-- What stands between a column and that of the joined row `b`, if nulls are equal. -/
def comparison : Dialect → String
  | .mysql => " <=> b."
  | .postgres => " IS NOT DISTINCT FROM b."
  | .sqlite => " IS b."

lemma nullSafeEqual_eq (d : Dialect) (left right : String) :
    nullSafeEqual d left ("b." ++ right) = left ++ comparison d ++ right := by
  apply String.toList_inj.mp
  cases d <;> simp [nullSafeEqual, comparison]

lemma readsAs_same {left : String} {owner : List IdentPart} (h : Qualifies d (left ++ ".") owner)
    {f : Field} (hf : Legible f.part) :
    ReadsAs d test
      (Sql.text (nullSafeEqual d (left ++ "." ++ f.columnSql d) ("b." ++ f.columnSql d)))
      (sameTest owner f) [] := by
  have hstaged := (ReadsAs.part (d := d) hf).map fun p => Test.same ⟨owner, f.part⟩ p
  rw [nullSafeEqual_eq, ReadsAs.text_append, ReadsAs.text_append_append]
  have hclears : clears ["."] (comparison d) = true := by cases d <;> decide
  refine (h.columnRef hf).bind ?_ ((beginsWith_text_append _ _).follows hclears)
  have hbegins := beginsWith_text_append (comparison d) (Sql.text (f.columnSql d))
  refine .choose_next _ hbegins (by cases d <;> decide) ?_
  refine .choose_next _ hbegins (by cases d <;> decide) ?_
  refine .choose_next _ hbegins (by cases d <;> decide) ?_
  cases d with
  | mysql => exact .choose_this hbegins (.exactly _ hstaged)
  | postgres =>
    refine .choose_next _ hbegins (by decide) ?_
    exact .choose_this hbegins (.exactly _ hstaged)
  | sqlite =>
    refine .choose_next _ hbegins (by decide) ?_
    refine .choose_next _ hbegins (by decide) ?_
    exact .choose_this hbegins (.exactly _ hstaged)

lemma readsAs_keySql {key : List Match} (hne : key ≠ []) (h : LegibleMatches key) :
    ReadsAs d tests (keySql d key) (key.map equalTest) [" AND "] :=
  .separated (by decide) hne fun m hm => readsAs_equal (h m hm)

lemma readsAs_groupSql {qualifier : String} {owner : List IdentPart}
    (hq : Qualifies d qualifier owner) {ms : List Match} (hne : ms ≠ []) (h : LegibleMatches ms) :
    ReadsAs d tests (groupSql d qualifier ms) (ms.map (matchTest owner)) [" AND "] :=
  .separated (by decide) hne fun m hm => readsAs_match hq (h m hm)

lemma readsAs_joinText {left : String} {owner : List IdentPart}
    (hq : Qualifies d (left ++ ".") owner) {fs : List Field} (hne : fs ≠ [])
    (h : ∀ f ∈ fs, Legible f.part) :
    ReadsAs d tests (Sql.text (joinText d left "b" fs)) (fs.map (sameTest owner)) [" AND "] := by
  simp only [joinText, toString_text]
  exact .separated_text (by decide) hne fun f hf => readsAs_same hq (h f hf)

/-- A group of conditions in parentheses. -/
lemma readsAs_group {ts : List Test} {q : Sql} (h : ReadsAs d tests q ts [" AND "]) :
    ReadsAs d group (Sql.text "(" ++ q ++ Sql.text ")") ts [] := by
  rw [append_assoc]
  refine .exactly _ (h.bind (.last_pure _ _ _) ?_)
  exact (beginsWith_text _).follows (by decide)

/-- An identifier begins with a letter, an underscore or a quote. -/
lemma not_isPrefixOf_part {s : String} {p : IdentPart} (hp : Legible p)
    (h : (s.toList.head?.any fun c => !(Ident.isPlainStart c || Ident.isQuote c)) = true)
    (q : Sql) (index : Nat) (rest : List Char) :
    s.toList.isPrefixOf (written d index (Sql.text (p.toSql d) ++ q).content ++ rest) = false := by
  rw [content_text_append, written_ofText_append, List.append_assoc]
  obtain ⟨x, hhead, hx⟩ := (Option.any_eq_true _ _).mp h
  obtain ⟨xs, hs⟩ := List.head?_eq_some_iff.mp hhead
  have hfirst : ∃ c cs, (p.toSql d).toList = c :: cs
      ∧ (Ident.isPlainStart c || Ident.isQuote c) = true := by
    cases p with
    | plain name =>
      simp only [Legible] at hp
      cases hname : name.toList with
      | nil => simp [hname, Ident.isPlain] at hp
      | cons c cs =>
        simp only [hname, Ident.isPlain, Bool.and_eq_true] at hp
        exact ⟨c, cs, by simpa [IdentPart.toSql] using hname, by simp [hp.1]⟩
    | quoted name =>
      refine ⟨d.identQuote, Text.doubled d.identQuote name.toList ++ [d.identQuote], ?_, ?_⟩
      · simp [IdentPart.toSql, Dialect.quoteIdent, Text.enclosed]
      · simp [isQuote_identQuote]
  obtain ⟨c, cs, hp, hc⟩ := hfirst
  have hne : x ≠ c := by
    rintro rfl
    rw [hc] at hx
    cases hx
  rw [hs, hp]
  simp [List.isPrefixOf, hne]

/-! ### Tables -/

/-- An entity whose table and columns are legible. -/
structure LegibleEntity (e : Entity) : Prop where
  table_ne : e.table.parts ≠ []
  table : ∀ p ∈ e.table.parts, Legible p
  fields : ∀ f ∈ e.fields, Legible f.part

lemma LegibleEntity.readsAs_table {e : Entity} (h : LegibleEntity e) :
    ReadsAs d path (Sql.text (e.tableSql d)) e.table.parts ["."] :=
  readsAs_path h.table_ne h.table

lemma LegibleEntity.qualifies {e : Entity} (h : LegibleEntity e) :
    Qualifies d (e.tableSql d ++ ".") e.table.parts :=
  qualifies_path h.table_ne h.table

lemma LegibleEntity.primaryKeys {e : Entity} (h : LegibleEntity e) :
    ∀ f ∈ e.primaryKeys, Legible f.part :=
  fun f hf => h.fields f (List.mem_of_mem_filter hf)

/-! ### Addressed rows -/

lemma beginsWith_text_append_append {s t u : String} {q : Sql} :
    BeginsWith s (Sql.text (t ++ u) ++ q) ↔ BeginsWith s (Sql.text t ++ (Sql.text u ++ q)) := by
  simp [BeginsWith, content_text_append]

lemma beginsWith_joined {γ : Type} {f : γ → Sql} {s sep : String} {xs : List γ} (hne : xs ≠ [])
    (haligned : ∀ x ∈ xs, (f x).Aligned) (h : ∀ x ∈ xs, BeginsWith s (f x)) :
    BeginsWith s (Sql.joined sep (xs.map f)) := by
  have hqs : ∀ q ∈ xs.map f, q.Aligned := by
    intro q hq
    obtain ⟨x, hx, rfl⟩ := List.mem_map.mp hq
    exact haligned x hx
  rw [BeginsWith, (joined_extends sep hqs).content rfl, List.map_map, Sql.content_empty,
    List.nil_append]
  obtain ⟨x, rest, rfl⟩ := List.exists_cons_of_ne_nil hne
  obtain ⟨w, hw⟩ := h x List.mem_cons_self
  rw [Sql.intercalate_cons_eq, Function.comp_apply, hw, List.append_assoc]
  exact ⟨_, rfl⟩

/-- Alternatives in parentheses. -/
lemma readsAs_alternatives {γ : Type} {f : γ → Sql} {g : γ → List Test} {xs : List γ}
    (hne : xs ≠ []) (h : ∀ x ∈ xs, ReadsAs d tests (f x) (g x) [" AND "]) :
    ReadsAs d scope (Sql.joined " OR " (xs.map fun x => Sql.text "(" ++ f x ++ Sql.text ")"))
      (.groups (xs.map g)) [" OR "] := by
  have hgroup : ∀ x ∈ xs, ReadsAs d group (Sql.text "(" ++ f x ++ Sql.text ")") (g x) [] :=
    fun x hx => readsAs_group (h x hx)
  have hbegins : BeginsWith "("
      (Sql.joined " OR " (xs.map fun x => Sql.text "(" ++ f x ++ Sql.text ")")) := by
    refine beginsWith_joined hne (fun x hx => (hgroup x hx).aligned) fun x _ => ?_
    rw [append_assoc]
    exact beginsWith_text_append _ _
  exact .ahead_true hbegins ((ReadsAs.separated (by decide) hne hgroup).map _)

/-- The rows of an update: those with one of the keys. -/
lemma readsAs_keyedRows {keys : List Field} {rows : List (List Match)} (hne : rows ≠ [])
    (hkeys : ∀ f ∈ keys, Legible f.part) (hrows : ∀ row ∈ rows, row ≠ [] ∧ LegibleMatches row) :
    ReadsAs d scope (keyedRowsSql d keys rows) (keyScope keys rows) [" OR "] := by
  have hgroups : ReadsAs d scope
      (Sql.joined " OR " (rows.map fun row => Sql.text "(" ++ keySql d row ++ Sql.text ")"))
      (.groups (rows.map fun row => row.map equalTest)) [" OR "] :=
    readsAs_alternatives hne fun row hrow => readsAs_keySql (hrows row hrow).1 (hrows row hrow).2
  match keys, hkeys with
  | [], _ => exact hgroups
  | _ :: _ :: _, _ => exact hgroups
  | [key], hkeys =>
    have hkey : Legible key.part := hkeys key List.mem_cons_self
    have hvalues : (rows.flatMap fun row => row.map (·.value)) ≠ [] := by
      obtain ⟨row, rest, rfl⟩ := List.exists_cons_of_ne_nil hne
      have hrow := (hrows row List.mem_cons_self).1
      simpa using fun h => absurd h hrow
    simp only [keyedRowsSql, keyScope, toString_text, append_assoc, ReadsAs.text_append_append]
    refine .ahead_false (fun index rest _ => not_isPrefixOf_part hkey (by decide) _ index rest) ?_
    have hcolumn := qualifies_none.columnRef (d := d) hkey
    rw [String.empty_append] at hcolumn
    refine hcolumn.bind ?_ ((beginsWith_text_append _ _).follows (by decide))
    have hin := beginsWith_text_append " IN (" (Sql.bindList
      (rows.flatMap fun row => row.map (·.value)) ++ Sql.text ")")
    refine .choose_next _ hin (by decide) ?_
    refine ReadsAs.map ?_ fun t => Scope.groups [[t]]
    refine .choose_next _ hin (by decide) (.choose_next _ hin (by decide) ?_)
    refine .choose_this hin (.exactly _ ((ReadsAs.bindList hvalues).bind (.last_pure _ _ _) ?_))
    exact (beginsWith_text _).follows (by decide)

/-- A temporary table and the conditions of the join with it. -/
lemma readsAs_joinedBy {temp keyword : String} (htemp : Ident.isPlain temp.toList = true)
    (hkeyword : clears [] keyword = true) {q : Sql} {on : List Test} {more : List String}
    (h : ReadsAs d tests q on more) :
    ReadsAs d (joinedBy keyword) (Sql.text temp ++ (Sql.text keyword ++ q))
      (.joined (.plain temp) on) more :=
  (ReadsAs.part (p := .plain temp) htemp).bind (.exactly _ (h.map _))
    ((beginsWith_text_append _ _).follows hkeyword)

/-- The existence of a joined row. -/
lemma readsAs_exists {temp : String} (htemp : Ident.isPlain temp.toList = true) {q : Sql}
    {on : List Test} (h : ReadsAs d tests q on [" AND "]) :
    ReadsAs d scope (Sql.text "EXISTS" ++ (Sql.text " (SELECT 1 FROM " ++ (Sql.text temp ++
      (Sql.text " b WHERE " ++ (q ++ Sql.text ")"))))) (.joined (.plain temp) on) [] := by
  have hexists : Legible (.plain "EXISTS") := rfl
  have hcolumn := qualifies_none.columnRef (d := d) hexists
  rw [String.empty_append] at hcolumn
  have hjoined : Sql.text temp ++ (Sql.text " b WHERE " ++ (q ++ Sql.text ")"))
      = (Sql.text temp ++ (Sql.text " b WHERE " ++ q)) ++ Sql.text ")" := by
    simp only [append_assoc]
  rw [hjoined]
  refine .ahead_false (fun index rest _ =>
    not_isPrefixOf_part (d := d) hexists (by decide) _ index rest) ?_
  refine hcolumn.bind ?_ ((beginsWith_text_append _ _).follows (by decide))
  refine .choose_this (beginsWith_text_append _ _) (.exactly _ ?_)
  exact (readsAs_joinedBy htemp (by decide) h).bind (.last_pure _ _ _)
    ((beginsWith_text _).follows (by decide))

end QueryLoom.Dml

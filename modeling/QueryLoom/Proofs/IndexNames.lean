import QueryLoom.Proofs.Ddl.Definitions

/-!
# Names of indexes

A created table has one index for each indexed field. Two of them have one name as soon as their
columns differ only in characters that are neither letters nor digits, which the check for equal
columns tells apart.
-/

namespace QueryLoom.Ddl

open Dml (toString_text)

/-! ### Names that meet -/

/-- The texts differ at most in characters that are neither letters nor digits. -/
def SameWords (s t : String) : Prop :=
  List.Forall₂ (fun c c' => c = c' ∨ ¬ c.isAlphanum ∧ ¬ c'.isAlphanum) s.toList t.toList

/-- A character as it stands in the name of an index. -/
def nameChar (c : Char) : Char := if Text.isAsciiAlphanumeric c || c == '_' then c else '_'

lemma toList_indexName (text : String) : (indexName text).toList = text.toList.map nameChar :=
  String.toList_ofList

lemma indexName_append (s t : String) : indexName (s ++ t) = indexName s ++ indexName t := by
  rw [← String.toList_inj]
  simp only [toList_indexName, String.toList_append, List.map_append]

lemma nameChar_of_isAlphanum {c : Char} (h : c.isAlphanum = true) : nameChar c = c := by
  rw [nameChar, Ident.isAsciiAlphanumeric_eq, h]
  rfl

lemma nameChar_of_not_isAlphanum {c : Char} (h : ¬ c.isAlphanum) : nameChar c = '_' := by
  rw [nameChar, Ident.isAsciiAlphanumeric_eq, Bool.eq_false_iff.mpr h, Bool.false_or]
  split
  · next hc => exact eq_of_beq hc
  · rfl

lemma nameChar_eq_iff (c c' : Char) :
    nameChar c = nameChar c' ↔ c = c' ∨ ¬ c.isAlphanum ∧ ¬ c'.isAlphanum := by
  have hunderscore : ¬ '_'.isAlphanum := by decide
  by_cases hc : c.isAlphanum <;> by_cases hc' : c'.isAlphanum
  · simp [nameChar_of_isAlphanum, hc, hc']
  · have hne : c ≠ c' := fun h => hc' (h ▸ hc)
    have hne' : c ≠ '_' := fun h => hunderscore (h ▸ hc)
    simp [nameChar_of_isAlphanum, nameChar_of_not_isAlphanum, hc, hc', hne, hne']
  · have hne : c ≠ c' := fun h => hc (h ▸ hc')
    have hne' : '_' ≠ c' := fun h => hunderscore (h ▸ hc')
    simp [nameChar_of_isAlphanum, nameChar_of_not_isAlphanum, hc, hc', hne, hne']
  · simp [nameChar_of_not_isAlphanum, hc, hc']

lemma indexName_eq_iff (s t : String) : indexName s = indexName t ↔ SameWords s t := by
  rw [← String.toList_inj, toList_indexName, toList_indexName, SameWords, ← List.forall₂_eq_eq_eq,
    List.forall₂_map_left_iff, List.forall₂_map_right_iff]
  simp only [nameChar_eq_iff]

/-- The names for some fields differ exactly if no two of their columns have the same words. -/
lemma nodup_names_iff (lead : String) (fields : List Field) :
    (fields.map fun f => indexName (lead ++ f.columnName)).Nodup ↔
      fields.Pairwise fun f g => ¬ SameWords f.columnName g.columnName := by
  rw [List.nodup_iff_pairwise_ne, List.pairwise_map]
  have hcancel (f g : Field) :
      indexName (lead ++ f.columnName) ≠ indexName (lead ++ g.columnName) ↔
        ¬ SameWords f.columnName g.columnName := by
    rw [indexName_append, indexName_append, ← indexName_eq_iff]
    simp
  simp only [hcancel]

lemma all_indexName (text : String) : (indexName text).toList.all isWordChar = true := by
  rw [toList_indexName, List.all_map, List.all_eq_true]
  intro c _
  rw [Function.comp_apply, isWordChar]
  by_cases hc : c.isAlphanum
  · rw [nameChar_of_isAlphanum hc, hc]
    rfl
  · rw [nameChar_of_not_isAlphanum hc]
    rfl

/-! ### Tables -/

/-- A key for each of some fields. -/
def keyItems (lead : String) (fields : List Field) : List Item :=
  fields.map fun f => .key (indexName (lead ++ f.columnName)) f

lemma text_keyItems (lead : String) (fields : List Field) :
    (keyItems lead fields).map Item.text = fields.map fun f =>
      s!"KEY {indexName (lead ++ f.columnName)} ({f.columnSql .mysql})" := by
  simp only [keyItems, List.map_map, Function.comp_def, Item.text]

lemma names_keyItems (lead : String) (fields : List Field) :
    (keyItems lead fields).flatMap Item.names
      = fields.map fun f => indexName (lead ++ f.columnName) := by
  rw [keyItems, List.flatMap_map]
  exact List.flatMap_pure_eq_map _ _

lemma sound_keyItems (lead : String) {fields : List Field}
    (hfields : ∀ f ∈ fields, Dml.Legible f.part) : ∀ i ∈ keyItems lead fields, i.Sound := by
  refine List.forall_mem_map.mpr fun f hf => ⟨?_, ?_⟩
  · simpa [Item.fields] using hfields f hf
  · simpa [Item.names] using all_indexName _

/-- What the names of the indexes of an entity begin with. -/
def lead (e : Entity) : String := "idx_" ++ e.tableBase ++ "_"

lemma lead_append (e : Entity) (f : Field) :
    (s!"idx_{e.tableBase}_{f.columnName}" : String) = lead e ++ f.columnName := by
  simp [lead]

/-- The primary key of an entity, if there is one. -/
def primaryItems (e : Entity) : List Item :=
  if e.primaryKeys.isEmpty then [] else [.primary e.primaryKeys]

lemma createTable_mysql (e : Entity) (temporary : Bool) :
    e.createTable .mysql temporary = [⟨definition temporary (e.tableSql .mysql)
      (e.fields.map .column ++ (primaryItems e ++ keyItems (lead e) (e.fields.filter (·.indexed)))),
      []⟩] := by
  have hcolumns : (e.fields.map Item.column).map Item.text = e.fields.map (·.columnDdl .mysql) :=
    List.map_map
  have hprimary : (primaryItems e).map Item.text = if e.primaryKeys.isEmpty then []
      else [s!"PRIMARY KEY ({columnList e.primaryKeys .mysql})"] := by
    unfold primaryItems
    split <;> rfl
  rw [definition, List.map_append, List.map_append, hcolumns, hprimary, text_keyItems]
  unfold Entity.createTable
  simp only [lead_append]
  cases temporary <;>
    simp [Dialect.inlineIndexes, opening, closing, Dialect.tempTableSuffix, String.append_assoc]

lemma createdIndex?_opening (temporary : Bool) (rest : List Char) :
    createdIndex? ((opening temporary).toList ++ rest) = none := by
  have hdiffer : Dml.differ "CREATE INDEX IF NOT EXISTS ".toList (opening temporary).toList
      = true := by
    cases temporary <;> rfl
  rw [createdIndex?, Dml.not_isPrefixOf_of_differ hdiffer, if_neg Bool.false_ne_true]

/-- Where indexes are not declared inside, one more statement creates each of them. -/
lemma createTable_separate (e : Entity) {d : Dialect} (hd : d.inlineIndexes = false)
    (temporary : Bool) : ∃ rest : String, e.createTable d temporary =
      ⟨opening temporary ++ rest, []⟩ :: (e.fields.filter (·.indexed)).map fun f =>
        ⟨"CREATE INDEX IF NOT EXISTS " ++ (indexName (lead e ++ f.columnName) ++
          (" ON " ++ s!"{e.tableSql d} ({f.columnSql d})")), []⟩ := by
  unfold Entity.createTable
  extract_lets table keys indexes nameOf columns primary inline body kind suffix create separate
  have hcreate : create = opening temporary ++ s!"{table} ({body}){suffix}" := by
    unfold create kind opening
    cases temporary <;> simp [String.append_assoc]
  have hseparate : separate = (e.fields.filter (·.indexed)).map fun f =>
      "CREATE INDEX IF NOT EXISTS " ++ (indexName (lead e ++ f.columnName) ++
        (" ON " ++ s!"{e.tableSql d} ({f.columnSql d})")) := by
    unfold separate
    rw [if_neg (by simp [hd])]
    refine List.map_congr_left fun f _ => ?_
    unfold nameOf
    rw [lead_append]
    simp [table, String.append_assoc]
  refine ⟨s!"{table} ({body}){suffix}", ?_⟩
  rw [hcreate, hseparate, List.map_cons, List.map_map]
  rfl

/-- A created table has one index for each indexed field. -/
lemma indexNames_createTable {e : Entity} (he : Accepted e) (hne : e.fields ≠ []) (d : Dialect)
    (temporary : Bool) : (e.createTable d temporary).flatMap (indexNames d)
      = (e.fields.filter (·.indexed)).map fun f => indexName (lead e ++ f.columnName) := by
  have hlegible := he.legible.fields
  have hfiltered (p : Field → Bool) : ∀ f ∈ e.fields.filter p, Dml.Legible f.part :=
    fun f hf => hlegible f (List.mem_of_mem_filter hf)
  cases hd : d.inlineIndexes with
  | true =>
    obtain rfl : d = .mysql := by cases d <;> first | rfl | cases hd
    obtain ⟨bare, hbare, hplain⟩ := exists_bare_table he.legible.table
    have hprimary : (∀ i ∈ primaryItems e, i.Sound) ∧ (primaryItems e).flatMap Item.names = [] := by
      unfold primaryItems
      split
      · simp
      · refine ⟨fun i hi => ?_, rfl⟩
        obtain rfl := List.mem_singleton.mp hi
        exact ⟨hfiltered _, by simp [Item.names]⟩
    have hitems := List.forall_mem_append.mpr
      ⟨hprimary.1, sound_keyItems (lead e) (hfiltered (·.indexed))⟩
    have hnames := indexNames_definition temporary hbare hplain hlegible hitems
      fun hnil => absurd hnil hne
    rw [createTable_mysql, List.flatMap_singleton, Entity.tableSql, hnames, List.flatMap_append,
      hprimary.2, List.nil_append, names_keyItems]
  | false =>
    have hindex (f : Field) (columns : String) : indexNames d ⟨"CREATE INDEX IF NOT EXISTS " ++
        (indexName (lead e ++ f.columnName) ++ (" ON " ++ columns)), []⟩
        = [indexName (lead e ++ f.columnName)] := by
      have hblank : ' ' ∉ (indexName (lead e ++ f.columnName)).toList :=
        notMem_of_all (all_indexName _) (by decide)
      rw [indexNames, if_neg (by simp [hd])]
      simp only [String.toList_append]
      exact congrArg Option.toList (createdIndex?_index hblank columns.toList)
    obtain ⟨rest, hcreate⟩ := createTable_separate e hd temporary
    rw [hcreate, List.flatMap_cons, indexNames, if_neg (by simp [hd]), String.toList_append,
      createdIndex?_opening, List.flatMap_map]
    simp only [hindex]
    exact List.flatMap_pure_eq_map _ _

/-- A keyed temporary table has one key for each of its fields. -/
lemma indexNames_tempTableDdl {temp : String} (htemp : Ident.isPlain temp.toList = true)
    {fields : List Field} (hfields : ∀ f ∈ fields, Dml.Legible f.part) :
    indexNames .mysql ⟨tempTableDdl temp fields true .mysql, []⟩
      = fields.map fun f => indexName ("idx_" ++ f.columnName) := by
  have hcolumns : (fields.map Item.column).map Item.text = fields.map (·.columnDdl .mysql) :=
    List.map_map
  have hsql : tempTableDdl temp fields true .mysql
      = definition true temp (fields.map .column ++ keyItems "idx_" fields) := by
    unfold definition tempTableDdl
    rw [List.map_append, hcolumns, text_keyItems]
    simp only [opening, closing, Dialect.inlineIndexes, toString_text, Bool.and_self, if_true,
      String.append_assoc]
  have hplain : Dml.Legible (.plain temp) := htemp
  have hnames := indexNames_definition true (bares_part .mysql hplain)
    (notMem_bareName hplain (by decide)) hfields (sound_keyItems "idx_" hfields)
    fun hnil => by rw [hnil, keyItems, List.map_nil]
  rw [IdentPart.toSql, ← hsql] at hnames
  rw [hnames, names_keyItems]

/-! ### Distinct names -/

lemma SameWords.eq_of_words {s t : String} (h : SameWords s t)
    (hs : ∀ c ∈ s.toList, c.isAlphanum ∨ c = '_') (ht : ∀ c ∈ t.toList, c.isAlphanum ∨ c = '_') :
    s = t := by
  rw [← String.toList_inj]
  unfold SameWords at h
  generalize s.toList = cs at h hs ⊢
  generalize t.toList = cs' at h ht ⊢
  induction h with
  | nil => rfl
  | @cons c c' cs cs' hc _ ih =>
    obtain ⟨hcs, hrest⟩ := List.forall_mem_cons.mp hs
    obtain ⟨hcs', hrest'⟩ := List.forall_mem_cons.mp ht
    have hc : c = c' := by
      rcases hc with rfl | ⟨hc, hc'⟩
      · rfl
      · rw [hcs.resolve_left hc, hcs'.resolve_left hc']
    rw [hc, ih hrest hrest']

/-- In an accepted entity only columns with other characters than letters, digits and underscores
have the same words. -/
lemma pairwise_of_words {e : Entity} (he : Accepted e) {fields : List Field}
    (hfields : fields ⊆ e.fields) (hnodup : fields.Nodup)
    (hwords : ∀ f ∈ fields, ∀ c ∈ f.columnName.toList, c.isAlphanum ∨ c = '_') :
    fields.Pairwise fun f g => ¬ SameWords f.columnName g.columnName := by
  refine List.Pairwise.imp_of_mem (fun {f g} hf hg hne hsame => hne ?_) hnodup
  have heq : f.columnName = g.columnName := hsame.eq_of_words (hwords f hf) (hwords g hg)
  refine List.inj_on_of_nodup_map he.columns_nodup (hfields hf) (hfields hg) ?_
  rw [Field.columnKey, Field.columnKey, heq]

/-- The table of an accepted entity is created with one index for each indexed field, named after
the table and the column, and a keyed temporary table over any of the fields with a key for each,
named after the column. The names differ exactly if no two of the columns differ only in characters
that are neither letters nor digits; so they always do for distinct fields whose columns have no
other characters than letters, digits and underscores. -/
theorem index_names_nodup_iff {decl : EntityDecl} {e : Entity} (h : decl.build = .ok e) :
    (∀ d temporary,
      (e.createTable d temporary).flatMap (indexNames d)
        = (e.fields.filter (·.indexed)).map
          (fun f => indexName s!"idx_{e.tableBase}_{f.columnName}") ∧
      (((e.createTable d temporary).flatMap (indexNames d)).Nodup ↔
        (e.fields.filter (·.indexed)).Pairwise
          fun f g => ¬ SameWords f.columnName g.columnName)) ∧
    (∀ temp fields, Ident.isPlain temp.toList = true → fields ⊆ e.fields →
      indexNames .mysql ⟨tempTableDdl temp fields true .mysql, []⟩
        = fields.map (fun f => indexName s!"idx_{f.columnName}") ∧
      ((indexNames .mysql ⟨tempTableDdl temp fields true .mysql, []⟩).Nodup ↔
        fields.Pairwise fun f g => ¬ SameWords f.columnName g.columnName)) ∧
    ∀ fields, fields ⊆ e.fields → fields.Nodup →
      (∀ f ∈ fields, ∀ c ∈ f.columnName.toList, c.isAlphanum ∨ c = '_') →
      fields.Pairwise fun f g => ¬ SameWords f.columnName g.columnName := by
  have he := accepted_of_build h
  have hne : e.fields ≠ [] := by
    obtain ⟨-, -, -, hne, hdecls, -, -, -⟩ := EntityDecl.build_eq_ok.mp h
    rintro hnil
    exact hne (by rw [← hdecls, hnil, List.map_nil])
  refine ⟨fun d temporary => ?_, fun temp fields htemp hfields => ?_,
    fun fields hfields => pairwise_of_words he hfields⟩
  · rw [indexNames_createTable he hne d temporary]
    simp only [lead_append]
    exact ⟨trivial, nodup_names_iff _ _⟩
  · rw [indexNames_tempTableDdl htemp fun f hf => he.legible.fields f (hfields hf)]
    exact ⟨rfl, nodup_names_iff _ _⟩

/-- Prices with an index for each of two columns. -/
def priceDecl (shown kept : String) : EntityDecl where
  table := "price"
  name? := none
  fields := [
    { FieldDecl.ofName "shown" .int with column := shown, indexed := true },
    { FieldDecl.ofName "kept" .int with column := kept, indexed := true }]

/-- The entity of prices whose columns are plain words. -/
def price (shown kept : String) : Entity where
  name := "price"
  tableText := "price"
  table := ⟨[.plain "price"]⟩
  fields := (priceDecl shown kept).fields.map fun f => { f with part := .plain f.column }

lemma build_price {shown kept : String} (hshown : Ident.isPlain shown.toList = true)
    (hkept : Ident.isPlain kept.toList = true) (hne : columnKey shown ≠ columnKey kept) :
    (priceDecl shown kept).build = .ok (price shown kept) := by
  have htable : Ident.parse "price" = .ok ⟨[.plain "price"]⟩ := Ident.parse_plain (by decide)
  refine EntityDecl.build_eq_ok.mpr ⟨htable, rfl, rfl, List.cons_ne_nil _ _, rfl, ?_, ?_, ?_⟩
  · simp only [price, priceDecl, List.map_cons, List.map_nil, List.forall_mem_cons]
    refine ⟨⟨?_, Ident.parse_plain hshown, ?_⟩, ⟨?_, Ident.parse_plain hkept, ?_⟩, ?_⟩ <;>
      simp [FieldDecl.ofName]
  · refine distinct_cons.mpr ⟨hshown, ⟨by simp, by simp⟩,
      distinct_cons.mpr ⟨hkept, ⟨?_, ?_⟩, distinct_nil⟩⟩
    · simp [FieldDecl.ofName]
    · exact fun hmem => hne (List.mem_singleton.mp hmem).symm
  · simp [price, priceDecl, FieldDecl.ofName]

/-- The columns `net$` and `net_2` get different names, also in a temporary table. -/
theorem index_names_nodup_iff_price :
    (priceDecl "net$" "net_2").build = .ok (price "net$" "net_2") ∧
    (∀ d temporary, ((price "net$" "net_2").createTable d temporary).flatMap (indexNames d)
      = ["idx_price_net_", "idx_price_net_2"]) ∧
    Ident.isPlain "price_0".toList = true ∧
    (indexNames .mysql
      ⟨tempTableDdl "price_0" (price "net$" "net_2").fields true .mysql, []⟩).Nodup := by
  have hbuild : (priceDecl "net$" "net_2").build = .ok (price "net$" "net_2") :=
    build_price (by decide) (by decide) (by decide)
  obtain ⟨htables, htemps, -⟩ := index_names_nodup_iff hbuild
  have htemp : Ident.isPlain "price_0".toList = true := by decide
  refine ⟨hbuild, fun d temporary => (htables d temporary).1.trans (by decide), htemp, ?_⟩
  refine (htemps "price_0" _ htemp (List.Subset.refl _)).2.mpr ?_
  simp only [← indexName_eq_iff]
  decide

/-- The columns `net$eur` and `net_eur` are accepted beside each other, and their indexes have the
same name in every dialect. -/
theorem index_names_meet :
    (priceDecl "net$eur" "net_eur").build = .ok (price "net$eur" "net_eur") ∧
    (∀ d temporary,
      ((price "net$eur" "net_eur").createTable d temporary).flatMap (indexNames d)
        = ["idx_price_net_eur", "idx_price_net_eur"]) ∧
    indexNames .mysql ⟨tempTableDdl "price_0" (price "net$eur" "net_eur").fields true .mysql, []⟩
      = ["idx_net_eur", "idx_net_eur"] := by
  have hbuild : (priceDecl "net$eur" "net_eur").build = .ok (price "net$eur" "net_eur") :=
    build_price (by decide) (by decide) (by decide)
  have he := accepted_of_build hbuild
  refine ⟨hbuild, fun d temporary => ?_, ?_⟩
  · exact (indexNames_createTable he (List.cons_ne_nil _ _) d temporary).trans (by decide)
  · exact (indexNames_tempTableDdl (by decide) he.legible.fields).trans (by decide)

end QueryLoom.Ddl

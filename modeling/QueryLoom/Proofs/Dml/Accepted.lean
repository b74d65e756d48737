import Mathlib.Data.List.Nodup
import Mathlib.Data.List.TakeWhile
import QueryLoom.Proofs.Dml.Conditions
import QueryLoom.Proofs.Results

/-!
# Accepted entities

An entity that a declaration is accepted as can be read back wherever it is written, and neither
two of its fields nor two of its columns are mistaken for each other.
-/

namespace QueryLoom

/-! ### Identifiers -/

lemma Ident.legible_of_readPart {text : String} {c : Char} {cs rest : List Char} {p : IdentPart}
    (h : readPart text c cs = .ok (p, rest)) : Dml.Legible p := by
  unfold readPart at h
  split at h
  · split at h
    · cases h
    · split at h
      · cases h
      · cases h
        trivial
  · dsimp only at h
    split at h
    · next hplain =>
      cases h
      simpa [Dml.Legible] using hplain
    · cases h

lemma Ident.legible_of_readParts {text : String} {c : Char} {cs : List Char}
    {parts : List IdentPart} (h : readParts text c cs = .ok parts) :
    parts ≠ [] ∧ ∀ p ∈ parts, Dml.Legible p := by
  fun_induction readParts text c cs generalizing parts with
  | case1 => cases h
  | case2 c cs part hpart =>
    cases h
    refine ⟨by simp, fun p hp => ?_⟩
    rw [List.mem_singleton.mp hp]
    exact legible_of_readPart hpart
  | case3 c cs part d rest hpart ih =>
    cases hrest : readParts text d rest with
    | error fault => simp [hrest, Except.map] at h
    | ok others =>
      simp only [hrest, Except.map, Except.ok.injEq] at h
      subst h
      refine ⟨by simp, fun p hp => ?_⟩
      rcases List.mem_cons.mp hp with rfl | hp
      · exact legible_of_readPart hpart
      · exact (ih hrest).2 p hp
  | case4 => cases h
  | case5 => cases h

lemma Ident.legible_of_parse {text : String} {id : Ident} (h : parse text = .ok id) :
    id.parts ≠ [] ∧ ∀ p ∈ id.parts, Dml.Legible p := by
  unfold parse at h
  split at h
  · cases h
  · split at h
    · cases h
    · split at h
      · next hparts =>
        cases h
        exact legible_of_readParts hparts
      · cases h

/-- A character of a plain word ends neither the word nor the text. -/
lemma Ident.ne_of_isPlainChar {c : Char} (h : isPlainChar c = true) : c ≠ '.' ∧ c ≠ '\x00' := by
  constructor <;> rintro rfl <;> revert h <;> decide

lemma Ident.isPlainChar_of_isPlain {cs : List Char} (h : isPlain cs = true) :
    ∀ c ∈ cs, isPlainChar c = true := by
  cases cs with
  | nil => simp
  | cons c cs =>
    obtain ⟨hfirst, hrest⟩ : isPlainStart c = true ∧ cs.all isPlainChar = true := by
      simpa [isPlain] using h
    refine List.forall_mem_cons.mpr ⟨?_, List.all_eq_true.mp hrest⟩
    simp only [isPlainStart, Bool.or_eq_true] at hfirst
    rcases hfirst with hfirst | hfirst <;> simp [isPlainChar, Text.isAsciiAlphanumeric, hfirst]

/-- A plain word is an identifier of one part. -/
lemma Ident.parse_plain {name : String} (h : isPlain name.toList = true) :
    parse name = .ok ⟨[.plain name]⟩ := by
  cases hname : name.toList with
  | nil => simp [hname, isPlain] at h
  | cons c cs =>
    rw [hname] at h
    have hstart : isPlainStart c = true ∧ cs.all isPlainChar = true := by
      simpa [isPlain] using h
    have hchars : ∀ x ∈ c :: cs, isPlainChar x = true := isPlainChar_of_isPlain h
    have hword : ∀ x ∈ c :: cs, decide (x ≠ '.') = true := fun x hx =>
      decide_eq_true (ne_of_isPlainChar (hchars x hx)).1
    have hnul : '\x00' ∉ c :: cs := fun hmem => (ne_of_isPlainChar (hchars _ hmem)).2 rfl
    have hquote : isQuote c = false := by
      rw [Bool.eq_false_iff]
      exact fun hquote => Dml.isPlainStart_ne_quote hstart.1 hquote rfl
    have hback : String.ofList (c :: cs) = name := by rw [← hname, String.ofList_toList]
    have hpart : readPart name c cs = .ok (.plain name, []) := by
      have htake := (List.takeWhile_eq_self_iff).mpr hword
      have hdrop := (List.dropWhile_eq_nil_iff).mpr fun x hx => hword x (List.mem_cons_of_mem c hx)
      rw [readPart, hquote, if_neg Bool.false_ne_true]
      simp only [htake, hdrop, h, hback, if_true]
    have hparts : readParts name c cs = .ok [.plain name] := by
      rw [readParts]
      split
      · next hfault => rw [hpart] at hfault; cases hfault
      · next hread => rw [hpart] at hread; cases hread; rfl
      · next hread => rw [hpart] at hread; cases hread
      · next hread => rw [hpart] at hread; cases hread
      · next hread => rw [hpart] at hread; cases hread; contradiction
    simp [parse, hname, hnul, hparts]

/-! ### Fields -/

/-- The key of the column of a field. -/
def Field.columnKey (f : Field) : String := QueryLoom.columnKey f.columnName

/-- A field that can be accepted where its name and its column are new. -/
structure Field.Sound (f : Field) : Prop where
  name_ne : f.name ≠ ""
  parse_column : Ident.parse f.column = .ok ⟨[f.part]⟩
  length_of_scale : f.scale?.isSome → f.length?.isSome

lemma Field.Sound.legible {f : Field} (h : f.Sound) : Dml.Legible f.part :=
  (Ident.legible_of_parse h.parse_column).2 _ List.mem_cons_self

/-- A declared field is accepted as itself with the part that its column reads as. -/
lemma FieldDecl.accept_eq_ok {table : String} {names columns : List String} {decl : FieldDecl}
    {f : Field} :
    decl.accept table names columns = .ok f ↔
      f.toFieldDecl = decl ∧ f.Sound ∧ f.name ∉ names ∧ f.columnKey ∉ columns := by
  unfold accept
  simp only [bind, Except.bind, throw, throwThe, MonadExceptOf.throw, pure, Except.pure]
  constructor
  · intro h
    split at h
    · cases h
    next hnamed =>
      split at h
      · cases h
      next id hid =>
        split at h
        · next part hpart =>
          split_ifs at h with hname hcolumn hscale
          cases h
          rw [List.contains_iff_mem] at hname hcolumn
          refine ⟨rfl, ⟨?_, ?_, ?_⟩, hname, hcolumn⟩
          · simpa using hnamed
          · rw [hid, ← hpart]
          · intro hsome
            simpa [hsome, Option.isSome_iff_ne_none] using hscale
        · cases h
  · rintro ⟨rfl, ⟨hnamed, hparse, hscale⟩, hname, hcolumn⟩
    have hnamed : f.name.isEmpty = false := by simpa using hnamed
    have hname : names.contains f.name = false := by simpa using hname
    have hcolumn : columns.contains (QueryLoom.columnKey f.part.name) = false := by
      simpa [Field.columnKey, Field.columnName] using hcolumn
    have hscale : (f.scale?.isSome && f.length?.isNone) = false := by
      simpa [← Option.isSome_iff_ne_none] using hscale
    simp only [hnamed, hparse, hname, hcolumn, hscale, Bool.false_eq_true, if_false]

/-- Fields that are accepted one after the other differ in names and columns, also from those
before them. -/
structure Distinct (names columns : List String) (fields : List Field) : Prop where
  legible : ∀ f ∈ fields, Dml.Legible f.part
  names_nodup : (fields.map (·.name)).Nodup
  columns_nodup : (fields.map (·.columnKey)).Nodup
  new_name : ∀ f ∈ fields, f.name ∉ names
  new_column : ∀ f ∈ fields, f.columnKey ∉ columns

lemma distinct_nil {names columns : List String} : Distinct names columns [] := by
  constructor <;> simp

/-- A field in front of others is one more that they must differ from. -/
lemma distinct_cons {names columns : List String} {f : Field} {fields : List Field} :
    Distinct names columns (f :: fields) ↔
      Dml.Legible f.part ∧ (f.name ∉ names ∧ f.columnKey ∉ columns) ∧
        Distinct (f.name :: names) (f.columnKey :: columns) fields := by
  constructor
  · rintro ⟨hlegible, hnames, hcolumns, hname, hcolumn⟩
    simp only [List.map_cons, List.nodup_cons, List.mem_map, not_exists, not_and,
      List.forall_mem_cons] at hlegible hnames hcolumns hname hcolumn
    refine ⟨hlegible.1, ⟨hname.1, hcolumn.1⟩, hlegible.2, hnames.2, hcolumns.2, ?_, ?_⟩
    · intro g hg
      rw [List.mem_cons, not_or]
      exact ⟨hnames.1 g hg, hname.2 g hg⟩
    · intro g hg
      rw [List.mem_cons, not_or]
      exact ⟨hcolumns.1 g hg, hcolumn.2 g hg⟩
  · rintro ⟨hlegible, ⟨hname, hcolumn⟩, hothers⟩
    have hnames : ∀ g ∈ fields, g.name ≠ f.name ∧ g.name ∉ names :=
      fun g hg => by simpa using hothers.new_name g hg
    have hcolumns : ∀ g ∈ fields, g.columnKey ≠ f.columnKey ∧ g.columnKey ∉ columns :=
      fun g hg => by simpa using hothers.new_column g hg
    constructor
    · exact List.forall_mem_cons.mpr ⟨hlegible, hothers.legible⟩
    · rw [List.map_cons, List.nodup_cons, List.mem_map]
      exact ⟨fun ⟨g, hg, hgf⟩ => (hnames g hg).1 hgf, hothers.names_nodup⟩
    · rw [List.map_cons, List.nodup_cons, List.mem_map]
      exact ⟨fun ⟨g, hg, hgf⟩ => (hcolumns g hg).1 hgf, hothers.columns_nodup⟩
    · exact List.forall_mem_cons.mpr ⟨hname, fun g hg => (hnames g hg).2⟩
    · exact List.forall_mem_cons.mpr ⟨hcolumn, fun g hg => (hcolumns g hg).2⟩

/-- Declared fields are accepted as themselves, each with the part of its column, exactly if each
is sound and they differ from each other and from those before them. -/
lemma acceptFields_eq_ok {table : String} {names columns : List String} {decls : List FieldDecl}
    {fields : List Field} :
    acceptFields table names columns decls = .ok fields ↔
      fields.map (·.toFieldDecl) = decls ∧ (∀ f ∈ fields, f.Sound) ∧
        Distinct names columns fields := by
  -- The names and columns before grow by those of each field that was accepted.
  induction decls generalizing names columns fields with
  | nil =>
    rw [acceptFields, Except.ok.injEq, List.map_eq_nil_iff]
    constructor
    · rintro rfl
      exact ⟨rfl, by simp, distinct_nil⟩
    · exact fun ⟨h, _⟩ => h.symm
  | cons decl decls ih =>
    simp only [acceptFields, SqlResult.bind_eq_ok, SqlResult.pure_eq_ok,
      FieldDecl.accept_eq_ok, ih]
    constructor
    · rintro ⟨f, ⟨rfl, hsound, hnew⟩, rest, ⟨rfl, hothers, hdistinct⟩, rfl⟩
      exact ⟨rfl, List.forall_mem_cons.mpr ⟨hsound, hothers⟩,
        distinct_cons.mpr ⟨hsound.legible, hnew, hdistinct⟩⟩
    · rintro ⟨hdecls, hsound, hdistinct⟩
      obtain ⟨f, rest, rfl, rfl, rfl⟩ := List.map_eq_cons_iff.mp hdecls
      obtain ⟨-, hnew, hothers⟩ := distinct_cons.mp hdistinct
      obtain ⟨hf, hrest⟩ := List.forall_mem_cons.mp hsound
      exact ⟨f, ⟨rfl, hf, hnew⟩, rest, ⟨rfl, hrest, hothers⟩, rfl⟩

/-! ### Entities -/

/-- An entity that can be read back and whose fields and columns differ. -/
structure Accepted (e : Entity) : Prop where
  legible : Dml.LegibleEntity e
  names_nodup : (e.fields.map (·.name)).Nodup
  columns_nodup : (e.fields.map (·.columnKey)).Nodup

/-- What a declaration is accepted as: its texts, its table as it reads, and its fields. -/
lemma EntityDecl.build_eq_ok {decl : EntityDecl} {e : Entity} :
    decl.build = .ok e ↔
      Ident.parse decl.table = .ok e.table ∧ e.tableText = decl.table ∧
      e.name = decl.name?.getD e.table.last ∧
      decl.fields ≠ [] ∧ e.fields.map (·.toFieldDecl) = decl.fields ∧
      (∀ f ∈ e.fields, f.Sound) ∧ Distinct [] [] e.fields ∧
      (e.fields.filter (·.deleted?.isSome)).length ≤ 1 := by
  unfold build
  simp only [SqlResult.bind_eq_ok]
  constructor
  · rintro ⟨table, htable, h⟩
    split_ifs at h with hempty
    · exact absurd h SqlResult.throw_bind_ne_ok
    obtain ⟨fields, hfields, h⟩ := SqlResult.bind_eq_ok.mp h
    split_ifs at h with hmany
    · exact absurd h SqlResult.throw_bind_ne_ok
    cases h
    obtain ⟨hdecls, hsound, hdistinct⟩ := acceptFields_eq_ok.mp hfields
    exact ⟨htable, rfl, rfl, by simpa using hempty, hdecls, hsound, hdistinct, not_lt.mp hmany⟩
  · rintro ⟨htable, htext, hname, hne, hdecls, hsound, hdistinct, hmany⟩
    have hfields := @acceptFields_eq_ok decl.table [] [] decl.fields e.fields
    refine ⟨e.table, htable, ?_⟩
    rw [if_neg (by simpa using hne), hfields.mpr ⟨hdecls, hsound, hdistinct⟩]
    simp only [bind, Except.bind]
    rw [if_neg (not_lt.mpr hmany), ← htext, ← hname]
    rfl

lemma accepted_of_build {decl : EntityDecl} {e : Entity} (h : decl.build = .ok e) :
    Accepted e := by
  obtain ⟨htable, -, -, -, -, -, hdistinct, -⟩ := EntityDecl.build_eq_ok.mp h
  obtain ⟨hne, hparts⟩ := Ident.legible_of_parse htable
  exact ⟨⟨hne, hparts, hdistinct.legible⟩, hdistinct.names_nodup, hdistinct.columns_nodup⟩

lemma Accepted.eq_of_name {e : Entity} (he : Accepted e) {f g : Field} (hf : f ∈ e.fields)
    (hg : g ∈ e.fields) (h : f.name = g.name) : f = g :=
  List.inj_on_of_nodup_map he.names_nodup hf hg h

lemma toLower_toLower (c : Char) : c.toLower.toLower = c.toLower := by
  unfold Char.toLower
  split
  · next h =>
    split
    · next h' =>
      simp only [UInt32.le_iff_toNat_le, UInt32.toNat_add, seval] at h h'
      omega
    · rfl
  · rfl

lemma columnKey_columnKey (s : String) : columnKey (columnKey s) = columnKey s := by
  simp only [columnKey, String.toList_ofList, List.map_map]
  congr 1
  exact List.map_congr_left fun c _ => toLower_toLower c

/-- The lines of orders: the key has two columns, one of which can be generated. -/
def orderLineDecl : EntityDecl where
  table := "order_line"
  name? := none
  fields := [
    (FieldDecl.ofName "order_id" .bigInt).asPrimaryKey,
    { (FieldDecl.ofName "line" .bigInt).asPrimaryKey with generator? := some .shortUuid },
    { FieldDecl.ofName "amount" .int with default? := some (.int 1) },
    FieldDecl.ofName "note" .text]

/-- The entity of order lines. -/
def orderLine : Entity where
  name := "order_line"
  tableText := "order_line"
  table := ⟨[.plain "order_line"]⟩
  fields := orderLineDecl.fields.map fun f => { f with part := .plain f.column }

lemma build_orderLine : orderLineDecl.build = .ok orderLine := by
  have htable := @Ident.parse_plain "order_line" (by decide)
  have horder := @Ident.parse_plain "order_id" (by decide)
  have hline := @Ident.parse_plain "line" (by decide)
  have hamount := @Ident.parse_plain "amount" (by decide)
  have hnote := @Ident.parse_plain "note" (by decide)
  simp only [EntityDecl.build, orderLineDecl, acceptFields, FieldDecl.accept,
    FieldDecl.asPrimaryKey, FieldDecl.ofName, htable, horder, hline, hamount, hnote]
  rfl

end QueryLoom

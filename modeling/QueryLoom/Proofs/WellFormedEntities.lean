import QueryLoom.Proofs.SpelledIdents

/-!
# Well-formed entities

A declaration is accepted exactly if it is well formed, and the entity has the declared fields,
each of which its name finds again.
-/

namespace QueryLoom

/-! ### Declarations -/

/-- Both columns are single parts with one name, no matter which of them is quoted and which
letters are capitals. -/
def FieldDecl.SameColumn (f g : FieldDecl) : Prop :=
  ∃ p q : IdentPart, Ident.parse f.column = .ok ⟨[p]⟩ ∧ Ident.parse g.column = .ok ⟨[q]⟩ ∧
    p.name.toLower = q.name.toLower

/-- What is asked of a declaration. -/
structure EntityDecl.WellFormed (decl : EntityDecl) : Prop where
  table : ∃ id, Ident.parse decl.table = .ok id
  fields_ne : decl.fields ≠ []
  name_ne : ∀ f ∈ decl.fields, f.name ≠ ""
  single_part : ∀ f ∈ decl.fields, ∃ part, Ident.parse f.column = .ok ⟨[part]⟩
  names_nodup : (decl.fields.map (·.name)).Nodup
  columns_distinct : decl.fields.Pairwise fun f g => ¬ f.SameColumn g
  one_deletion : decl.fields.countP (·.deleted?.isSome) ≤ 1
  length_of_scale : ∀ f ∈ decl.fields, f.scale?.isSome → f.length?.isSome

lemma columnKey_eq_toLower (name : String) : columnKey name = name.toLower := by
  have h : name.toLower.toList = name.toList.map Char.toLower := String.toList_map
  rw [← String.toList_inj, columnKey, String.toList_ofList, h]

lemma Field.Sound.sameColumn_iff {f g : Field} (hf : f.Sound) (hg : g.Sound) :
    f.toFieldDecl.SameColumn g.toFieldDecl ↔ f.columnKey = g.columnKey := by
  simp only [FieldDecl.SameColumn, Field.columnKey, columnKey_eq_toLower, Field.columnName,
    hf.parse_column, hg.parse_column, Except.ok.injEq, Ident.mk.injEq, List.cons.injEq, and_true]
  constructor
  · rintro ⟨p, q, rfl, rfl, h⟩
    exact h
  · exact fun h => ⟨f.part, g.part, rfl, rfl, h⟩

/-- The columns of sound fields differ as their keys do. -/
lemma columns_nodup_iff {fields : List Field} (h : ∀ f ∈ fields, f.Sound) :
    (fields.map (·.columnKey)).Nodup ↔
      (fields.map (·.toFieldDecl)).Pairwise fun f g => ¬ f.SameColumn g := by
  rw [List.nodup_iff_pairwise_ne, List.pairwise_map, List.pairwise_map]
  constructor <;> refine List.Pairwise.imp_of_mem fun hf hg hne => ?_
  · rwa [(h _ hf).sameColumn_iff (h _ hg)]
  · rwa [(h _ hf).sameColumn_iff (h _ hg)] at hne

/-- Declared fields with names, lengths and single columns are those of sound fields. -/
lemma exists_sound {decls : List FieldDecl} (hname : ∀ f ∈ decls, f.name ≠ "")
    (hpart : ∀ f ∈ decls, ∃ part, Ident.parse f.column = .ok ⟨[part]⟩)
    (hlength : ∀ f ∈ decls, f.scale?.isSome → f.length?.isSome) :
    ∃ fields : List Field, fields.map (·.toFieldDecl) = decls ∧ ∀ f ∈ fields, f.Sound := by
  induction decls with
  | nil => exact ⟨[], rfl, by simp⟩
  | cons decl decls ih =>
    simp only [List.forall_mem_cons] at hname hpart hlength
    obtain ⟨fields, rfl, hsound⟩ := ih hname.2 hpart.2 hlength.2
    obtain ⟨part, hparse⟩ := hpart.1
    exact ⟨{ decl with part := part } :: fields, rfl,
      List.forall_mem_cons.mpr ⟨⟨hname.1, hparse, hlength.1⟩, hsound⟩⟩

/-! ### Acceptance -/

lemma EntityDecl.wellFormed_of_build {decl : EntityDecl} {e : Entity} (h : decl.build = .ok e) :
    decl.WellFormed := by
  obtain ⟨htable, -, -, hne, hdecls, hsound, hdistinct, hmany⟩ := build_eq_ok.mp h
  have hfields {p : FieldDecl → Prop} (hp : ∀ f : Field, f.Sound → p f.toFieldDecl) :
      ∀ f ∈ decl.fields, p f := by
    rw [← hdecls, List.forall_mem_map]
    exact fun f hf => hp f (hsound f hf)
  constructor
  · exact ⟨e.table, htable⟩
  · exact hne
  · exact hfields fun f hf => hf.name_ne
  · exact hfields fun f hf => ⟨f.part, hf.parse_column⟩
  · rw [← hdecls, List.map_map]
    exact hdistinct.names_nodup
  · rw [← hdecls]
    exact (columns_nodup_iff hsound).mp hdistinct.columns_nodup
  · rw [← hdecls, List.countP_map, List.countP_eq_length_filter]
    exact hmany
  · exact hfields fun f hf => hf.length_of_scale

lemma EntityDecl.WellFormed.exists_build {decl : EntityDecl} (h : decl.WellFormed) :
    ∃ e, decl.build = .ok e := by
  obtain ⟨id, htable⟩ := h.table
  obtain ⟨fields, hdecls, hsound⟩ := exists_sound h.name_ne h.single_part h.length_of_scale
  refine ⟨⟨decl.name?.getD id.last, decl.table, id, fields⟩, build_eq_ok.mpr ?_⟩
  refine ⟨htable, rfl, rfl, h.fields_ne, hdecls, hsound, ?_, ?_⟩
  · constructor
    · exact fun f hf => (hsound f hf).legible
    · have hnames := h.names_nodup
      rwa [← hdecls, List.map_map] at hnames
    · have hcolumns := h.columns_distinct
      rwa [← hdecls, ← columns_nodup_iff hsound] at hcolumns
    · simp
    · simp
  · have hmany := h.one_deletion
    rwa [← hdecls, List.countP_map, List.countP_eq_length_filter] at hmany

lemma Accepted.field?_name {e : Entity} (he : Accepted e) {f : Field} (hf : f ∈ e.fields) :
    e.field? f.name = some f := by
  obtain ⟨g, hg⟩ : ∃ g, e.field? f.name = some g :=
    Option.isSome_iff_exists.mp (List.find?_isSome.mpr ⟨f, hf, by simp⟩)
  have hname : g.name = f.name := by simpa using List.find?_some hg
  rw [hg, he.eq_of_name (List.mem_of_find?_eq_some hg) hf hname]

/-- Exactly the well-formed declarations are accepted. The entity has the declared table and, in
order, the declared fields, each of them unchanged beside the identifier that its column reads as;
and each field is the one that its name finds. -/
theorem EntityDecl.build_iff_wellFormed (decl : EntityDecl) :
    ((∃ e, decl.build = .ok e) ↔ decl.WellFormed) ∧
    ∀ e, decl.build = .ok e →
      e.tableText = decl.table ∧ Ident.parse decl.table = .ok e.table ∧
      e.fields.map (·.toFieldDecl) = decl.fields ∧
      (∀ f ∈ e.fields, Ident.parse f.column = .ok ⟨[f.part]⟩) ∧
      ∀ f ∈ e.fields, e.field? f.name = some f := by
  refine ⟨⟨fun ⟨e, h⟩ => wellFormed_of_build h, fun h => h.exists_build⟩, fun e h => ?_⟩
  obtain ⟨htable, htext, -, -, hdecls, hsound, -, -⟩ := build_eq_ok.mp h
  exact ⟨htext, htable, hdecls, fun f hf => (hsound f hf).parse_column,
    fun f hf => (accepted_of_build h).field?_name hf⟩

/-- Contacts, whose number stands in an unquoted column and whose name in a quoted one. -/
def contactDecl (number name : String) : EntityDecl where
  table := "contact"
  name? := none
  fields := [
    { FieldDecl.ofName "number" .int with column := number },
    { FieldDecl.ofName "name" .text with column := name }]

/-- The entity of contacts with the columns `id` and `Full Name`. -/
def contact : Entity where
  name := "contact"
  tableText := "contact"
  table := ⟨[.plain "contact"]⟩
  fields := [
    { FieldDecl.ofName "number" .int with column := "id", part := .plain "id" },
    { FieldDecl.ofName "name" .text with column := "\"Full Name\"", part := .quoted "Full Name" }]

lemma build_contact : (contactDecl "id" "\"Full Name\"").build = .ok contact := by
  have htable := @Ident.parse_plain "contact" (by decide)
  have hid := @Ident.parse_plain "id" (by decide)
  have hname : Ident.parse "\"Full Name\"" = .ok ⟨[.quoted "Full Name"]⟩ :=
    Ident.parse_eq_ok.mpr ⟨by decide, _,
      .last (@Ident.Spells.quoted '"' "Full Name".toList (.inl rfl) (by decide)), rfl⟩
  simp only [EntityDecl.build, contactDecl, acceptFields, FieldDecl.accept, FieldDecl.ofName,
    htable, hid, hname]
  rfl

/-- The columns `id` and `Full Name` are accepted and found again. The columns `Id` and `iD` are
refused, though one of them is quoted. -/
theorem build_iff_wellFormed_contact :
    (contactDecl "id" "\"Full Name\"").WellFormed ∧
    contact.fields.map (·.toFieldDecl) = (contactDecl "id" "\"Full Name\"").fields ∧
    contact.field? "name" = some contact.fields[1] ∧
    ¬ ∃ e, (contactDecl "Id" "\"iD\"").build = .ok e := by
  obtain ⟨hiff, hkept⟩ := EntityDecl.build_iff_wellFormed (contactDecl "id" "\"Full Name\"")
  obtain ⟨-, -, hfields, -, hfound⟩ := hkept contact build_contact
  refine ⟨hiff.mp ⟨contact, build_contact⟩, hfields, hfound contact.fields[1] ?_, fun h => ?_⟩
  · exact List.getElem_mem _
  · have hdistinct := ((EntityDecl.build_iff_wellFormed _).1.mp h).columns_distinct
    have hplain := @Ident.parse_plain "Id" (by decide)
    have hquoted : Ident.parse "\"iD\"" = .ok ⟨[.quoted "iD"]⟩ :=
      Ident.parse_eq_ok.mpr ⟨by decide, _,
        .last (@Ident.Spells.quoted '"' "iD".toList (.inl rfl) (by decide)), rfl⟩
    rw [contactDecl, List.pairwise_pair] at hdistinct
    refine hdistinct ⟨.plain "Id", .quoted "iD", hplain, hquoted, ?_⟩
    rw [← columnKey_eq_toLower, ← columnKey_eq_toLower]
    decide

end QueryLoom

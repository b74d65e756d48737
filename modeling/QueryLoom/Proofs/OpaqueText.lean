import QueryLoom.Proofs.Dml.Accepted
import QueryLoom.Proofs.NamedMarkers

/-!
# Generated text between markers

A string literal or an identifier that the dialect wrote is read by the scan for markers as text
without markers that ends where it ends, whatever characters it was written from. So it is copied,
and what follows it is read as if it stood alone.
-/

namespace QueryLoom

/-! ### SQL behind a text -/

namespace Sql

/-- SQL behind a text, which takes in a text that comes first. -/
def behind (s : String) (q : Sql) : Sql :=
  { q with parts :=
      match q.parts with
      | .raw t :: parts => .raw (s ++ t) :: parts
      | parts => .raw s :: parts }

@[simp] lemma params_behind (s : String) (q : Sql) : (q.behind s).params = q.params := rfl

@[simp] lemma render_behind (s : String) (q : Sql) (d : Dialect) :
    (q.behind s).render d = s ++ q.render d := by
  obtain ⟨parts, params⟩ := q
  apply String.toList_inj.mp
  rcases parts with _ | ⟨_ | _, parts⟩ <;> simp [behind, render, texts]

lemma behind_push (s : String) (q : Sql) (t : String) : (q.behind s).push t = (q.push t).behind s := by
  unfold push
  by_cases ht : t.isEmpty
  · simp [ht]
  · obtain ⟨parts, params⟩ := q
    simp only [ht, Bool.false_eq_true, if_false, behind]
    rcases parts with _ | ⟨_ | _, _ | ⟨part, parts⟩⟩ <;> simp [addText, String.append_assoc]

lemma behind_pushBind (s : String) (q : Sql) (v : Json) :
    (q.behind s).pushBind v = (q.pushBind v).behind s := by
  obtain ⟨parts, params⟩ := q
  rcases parts with _ | ⟨_ | _, parts⟩ <;> rfl

lemma behind_pushBindList (s : String) (q : Sql) (values : List Json) :
    (q.behind s).pushBindList values = (q.pushBindList values).behind s := by
  cases values with
  | nil => exact behind_push s q "NULL"
  | cons v values =>
    simp only [pushBindList, behind_pushBind]
    induction values generalizing q v with
    | nil => rfl
    | cons w values ih =>
      have hnext : ∀ p : Sql, ((p.behind s).push ", ").pushBind w
          = ((p.push ", ").pushBind w).behind s := by
        intro p
        rw [behind_push, behind_pushBind]
      simp only [List.foldl_cons, hnext]
      exact ih _ w

lemma addText_addText (s t : String) (parts : List SqlPart) :
    addText t (addText s parts) = addText (s ++ t) parts := by
  fun_induction addText s parts with
  | case1 => rfl
  | case2 last => simp [addText, String.append_assoc]
  | case3 part parts hlast ih =>
    have hjoined : addText t (part :: addText s parts) = part :: addText t (addText s parts) := by
      rw [addText]
      rintro last rfl hnil
      cases parts with
      | nil => exact hlast last rfl rfl
      | cons part' parts => cases parts <;> cases part' <;> simp [addText] at hnil
    rw [hjoined, ih, addText]
    exact hlast

/-- Two texts that are appended one after the other are one text. -/
lemma push_push (q : Sql) (s t : String) : (q.push s).push t = q.push (s ++ t) := by
  by_cases hs : s = ""
  · simp [hs, push]
  · by_cases ht : t = ""
    · simp [ht, push]
    · simp [push, hs, ht, addText_addText]

end Sql

namespace Binding

lemma behind_pushRegion (bag : Json) (s : String) (q : Sql) (r : Region) :
    pushRegion bag (q.behind s) r = (pushRegion bag q r).behind s := by
  cases r with
  | verbatim text => exact Sql.behind_push s q _
  | marker name =>
    simp only [pushRegion]
    cases valueOf? bag name with
    | none => rfl
    | some value =>
      cases value with
      | array items => exact Sql.behind_pushBindList s q items
      | _ => exact Sql.behind_pushBind s q _

lemma behind_foldl_pushRegion (bag : Json) (s : String) (q : Sql) (rs : List Region) :
    rs.foldl (pushRegion bag) (q.behind s) = (rs.foldl (pushRegion bag) q).behind s := by
  induction rs generalizing q with
  | nil => rfl
  | cons r rs ih => rw [List.foldl_cons, behind_pushRegion, ih, List.foldl_cons]

/-! ### Opaque text -/

/-- In front of `rest` the text is read as regions without markers, which end where it ends. -/
def Opaque (d : Dialect) (text rest : List Char) : Prop :=
  ∃ pieces : List (List Char), pieces.flatten = text ∧
    regions d (text ++ rest) = pieces.map .verbatim ++ regions d rest

namespace Opaque

variable {d : Dialect} {text more rest : List Char}

lemma nil (d : Dialect) (rest : List Char) : Opaque d [] rest := ⟨[], rfl, rfl⟩

lemma append (h : Opaque d text (more ++ rest)) (hmore : Opaque d more rest) :
    Opaque d (text ++ more) rest := by
  obtain ⟨pieces, rfl, hpieces⟩ := h
  obtain ⟨pieces', rfl, hpieces'⟩ := hmore
  refine ⟨pieces ++ pieces', List.flatten_append, ?_⟩
  rw [List.append_assoc, hpieces, hpieces', List.map_append, List.append_assoc]

lemma of_reads (h : Reads d (.verbatim text) rest) : Opaque d text rest := by
  have hcut : IsCut d (.verbatim text :: regions d rest) (text ++ rest) :=
    .cons h (isCut_regions d rest)
  exact ⟨[text], List.flatten_singleton, ((isCut_iff d _ _).mp hcut).symm⟩

/-- Characters that open nothing are read one by one. -/
lemma of_forall (h : ∀ c ∈ text, ∀ rest, ¬ IsOpening d c rest) (rest : List Char) :
    Opaque d text rest := by
  induction text with
  | nil => exact nil d rest
  | cons c text ih =>
    obtain ⟨hc, htext⟩ := List.forall_mem_cons.mp h
    exact append (of_reads (.single (hc _))) (ih htext)

end Opaque

/-! ### Literals -/

lemma quoted_literalChar (d : Dialect) (c : Char) {text rest : List Char}
    (h : Quoted (hasEscapes d '\'') '\'' text rest) :
    Quoted (hasEscapes d '\'') '\'' (d.literalChar c ++ text) rest := by
  unfold Dialect.literalChar
  split
  · exact .doubled h
  · next hquote =>
    split
    · next hd =>
      subst hd
      split
      all_goals try exact .escaped rfl _ h
      next hbackslash _ _ _ _ _ _ => exact .other hquote (fun hc => hbackslash hc.2) h
    · next hd => exact .other hquote (by simp [hasEscapes, hd]) h

lemma quoted_literal (d : Dialect) (value : List Char) {rest : List Char}
    (h : rest.head? ≠ some '\'') :
    Quoted (hasEscapes d '\'') '\'' (value.flatMap d.literalChar ++ ['\'']) rest := by
  induction value with
  | nil => exact .closed h
  | cons c value ih =>
    rw [List.flatMap_cons, List.append_assoc]
    exact quoted_literalChar d c ih

lemma opaque_quoteLiteral (d : Dialect) (value : String) {rest : List Char}
    (h : rest.head? ≠ some '\'') : Opaque d (d.quoteLiteral value).toList rest := by
  rw [Dialect.quoteLiteral, String.toList_ofList]
  exact .of_reads (.quoted (.inl rfl) (quoted_literal d value.toList h))

/-! ### Identifiers -/

lemma quoted_doubled (quote : Char) (name : List Char) {rest : List Char}
    (h : rest.head? ≠ some quote) : Quoted false quote (Text.doubled quote name ++ [quote]) rest := by
  induction name with
  | nil => exact .closed h
  | cons c name ih =>
    rw [Text.doubled]
    by_cases hc : c = quote
    · rw [if_pos hc]
      exact .doubled ih
    · rw [if_neg hc]
      exact .other hc (by simp) ih

lemma isQuote_identQuote (d : Dialect) : IsQuote d.identQuote := by
  cases d <;> simp [IsQuote, Dialect.identQuote]

lemma opaque_quoteIdent (d : Dialect) (name : String) {rest : List Char}
    (h : rest.head? ≠ some d.identQuote) : Opaque d (d.quoteIdent name).toList rest := by
  have hescapes : hasEscapes d d.identQuote = false := by cases d <;> rfl
  have hquoted : Quoted (hasEscapes d d.identQuote) d.identQuote
      (Text.doubled d.identQuote name.toList ++ [d.identQuote]) rest := by
    rw [hescapes]
    exact quoted_doubled d.identQuote name.toList h
  rw [Dialect.quoteIdent, String.toList_ofList]
  exact .of_reads (.quoted (isQuote_identQuote d) hquoted)

/-- A character of a plain word, or the dot between words, opens nothing. -/
lemma not_isOpening_plain (d : Dialect) {c : Char} (h : Ident.isPlainChar c = true ∨ c = '.')
    (rest : List Char) : ¬ IsOpening d c rest := by
  rintro (hq | ⟨-, rfl⟩ | ⟨rfl, -⟩ | ⟨rfl, -⟩ | ⟨rfl, -⟩)
  · rcases hq with rfl | rfl | rfl <;> revert h <;> decide
  all_goals revert h; decide

lemma opaque_plain (d : Dialect) {name : String} (h : Ident.isPlain name.toList = true)
    (rest : List Char) : Opaque d name.toList rest := by
  refine .of_forall (fun c hc => ?_) rest
  exact not_isOpening_plain d (.inl (Ident.isPlainChar_of_isPlain h c hc))

lemma opaque_part {d : Dialect} {p : IdentPart} (hp : Dml.Legible p) {rest : List Char}
    (h : ∀ name, p = .quoted name → rest.head? ≠ some d.identQuote) :
    Opaque d (p.toSql d).toList rest := by
  cases p with
  | plain name => exact opaque_plain d hp rest
  | quoted name => exact opaque_quoteIdent d name (h name rfl)

/-- The dot after a part is no quote, so only what follows the last part matters. -/
lemma opaque_parts {d : Dialect} {parts : List IdentPart} (hparts : ∀ p ∈ parts, Dml.Legible p)
    {rest : List Char}
    (h : ∀ name, parts.getLast? = some (.quoted name) → rest.head? ≠ some d.identQuote) :
    Opaque d (".".intercalate (parts.map (·.toSql d))).toList rest := by
  induction parts with
  | nil => exact .nil d rest
  | cons p parts ih =>
    obtain ⟨hp, hparts⟩ := List.forall_mem_cons.mp hparts
    cases parts with
    | nil =>
      rw [List.map_singleton, String.intercalate_singleton]
      exact opaque_part hp fun name hname => h name (by rw [hname]; rfl)
    | cons p' parts =>
      have hdot : ∀ more, Opaque d ['.'] more :=
        Opaque.of_forall (by simpa using not_isOpening_plain d (.inr rfl))
      have hlater := (hdot _).append (ih hparts h)
      have hne : d.identQuote ≠ '.' := by cases d <;> decide
      rw [List.map_cons, List.map_cons, String.intercalate_cons_cons, ← List.map_cons,
        String.append_assoc, String.toList_append, String.toList_append]
      refine (opaque_part hp fun name _ => ?_).append hlater
      simpa using hne.symm

/-! ### Generated text -/

/-- Text that is generated between quotes or from an identifier: a string literal, or an identifier
that was read or quoted. -/
inductive Generated (d : Dialect) : String → Prop where
  | literal (value : String) : Generated d (d.quoteLiteral value)
  | parsed {text : String} {id : Ident} (h : Ident.parse text = .ok id) : Generated d (id.toSql d)
  | quoted {name : String} {id : Ident} (h : Ident.ofQuoted name = .ok id) :
      Generated d (id.toSql d)

/-- The text of an identifier ends with that of its last part. -/
lemma exists_toSql_eq (d : Dialect) {parts : List IdentPart} {p : IdentPart}
    (h : parts.getLast? = some p) :
    ∃ front, (".".intercalate (parts.map (·.toSql d))).toList = front ++ (p.toSql d).toList := by
  induction parts with
  | nil => simp at h
  | cons part parts ih =>
    cases parts with
    | nil =>
      obtain rfl : part = p := by simpa using h
      exact ⟨[], by simp⟩
    | cons part' parts =>
      obtain ⟨front, hfront⟩ := ih h
      refine ⟨(part.toSql d).toList ++ '.' :: front, ?_⟩
      rw [List.map_cons, List.map_cons, String.intercalate_cons_cons, ← List.map_cons,
        String.toList_append, hfront]
      simp

lemma opaque_ident {d : Dialect} {id : Ident} (hne : id.parts ≠ [])
    (hparts : ∀ p ∈ id.parts, Dml.Legible p) {rest : List Char}
    (hrest : ∀ c, (id.toSql d).toList.getLast? = some c → IsQuote c → rest.head? ≠ some c) :
    id.toSql d ≠ "" ∧ Opaque d (id.toSql d).toList rest := by
  obtain ⟨p, hp⟩ := Option.ne_none_iff_exists'.mp (mt List.getLast?_eq_none_iff.mp hne)
  obtain ⟨front, hfront⟩ := exists_toSql_eq d hp
  have hlast : (p.toSql d).toList ≠ [] := by
    cases p with
    | plain name =>
      intro hnil
      have hplain : Ident.isPlain name.toList = true := hparts _ (List.mem_of_getLast? hp)
      rw [show name.toList = [] from hnil] at hplain
      cases hplain
    | quoted name => simp [IdentPart.toSql, Dialect.quoteIdent, Text.enclosed]
  constructor
  · intro hempty
    rw [← Ident.toSql, hempty] at hfront
    exact hlast (List.append_eq_nil_iff.mp hfront.symm).2
  · refine opaque_parts hparts fun name hname => hrest _ ?_ (isQuote_identQuote d)
    obtain rfl : p = .quoted name := Option.some.inj (hp.symm.trans hname)
    rw [Ident.toSql, hfront, IdentPart.toSql, Dialect.quoteIdent, String.toList_ofList, Text.enclosed,
      ← List.append_assoc, List.getLast?_concat]

lemma opaque_generated {d : Dialect} {q : String} (hq : Generated d q) {rest : List Char}
    (hrest : ∀ c, q.toList.getLast? = some c → IsQuote c → rest.head? ≠ some c) :
    q ≠ "" ∧ Opaque d q.toList rest := by
  cases hq with
  | literal value =>
    refine ⟨?_, opaque_quoteLiteral d value (hrest _ ?_ (.inl rfl))⟩
    · simp [Dialect.quoteLiteral]
    · rw [Dialect.quoteLiteral, String.toList_ofList, List.getLast?_concat]
  | parsed h =>
    obtain ⟨hne, hparts⟩ := Ident.legible_of_parse h
    exact opaque_ident hne hparts hrest
  | @quoted name id h =>
    unfold Ident.ofQuoted at h
    split at h
    · cases h
    · split at h
      · cases h
      · cases h
        exact opaque_ident (List.cons_ne_nil _ _) (by simp [Dml.Legible]) hrest

/-! ### Text without markers -/

lemma exists_pieces {rs : List Region} (h : markerNames rs = []) :
    ∃ pieces : List (List Char), rs = pieces.map .verbatim := by
  induction rs with
  | nil => exact ⟨[], rfl⟩
  | cons r rs ih =>
    cases r with
    | verbatim piece =>
      obtain ⟨pieces, rfl⟩ := ih h
      exact ⟨piece :: pieces, rfl⟩
    | marker name => simp [markerNames] at h

lemma flatMap_source_verbatim (pieces : List (List Char)) :
    (pieces.map Region.verbatim).flatMap Region.source = pieces.flatten := by
  rw [List.flatMap_map]
  exact List.flatMap_id

lemma missing_append (bag : Json) (rs rs' : List Region) :
    missing bag (rs ++ rs') = missing bag rs ++ missing bag rs' := List.filterMap_append

lemma missing_verbatim (bag : Json) (pieces : List (List Char)) :
    missing bag (pieces.map .verbatim) = [] := by
  simp [missing, List.filterMap_map]

lemma foldl_verbatim (bag : Json) (q : Sql) (pieces : List (List Char)) :
    (pieces.map Region.verbatim).foldl (pushRegion bag) q = q.push (String.ofList pieces.flatten) := by
  induction pieces generalizing q with
  | nil => rfl
  | cons piece pieces ih =>
    rw [List.map_cons, List.foldl_cons, ih, pushRegion, Sql.push_push, ← String.ofList_append,
      List.flatten_cons]

/-- Binding copies generated text, whatever it was generated from, and binds what follows as if it
stood alone: the same markers are found, and the same ones are refused. What follows must not begin
with the quote that ends the text, which would be read as doubled. -/
theorem bindSql_generated {d : Dialect} {q : String} (hq : Generated d q) {rest : String}
    (hrest : ∀ c, q.toList.getLast? = some c → IsQuote c → rest.toList.head? ≠ some c) :
    (∃ pieces : List (List Char), pieces.flatten = q.toList ∧
      regions d (q ++ rest).toList = pieces.map .verbatim ++ regions d rest.toList) ∧
    ∀ bag,
      (∀ e, bindSql (q ++ rest) bag d = .error e ↔ bindSql rest bag d = .error e) ∧
      bindSql (q ++ rest) bag d = (bindSql rest bag d).map (·.behind q) ∧
      bind (q ++ rest) bag d = (bind rest bag d).map fun s => ⟨q ++ s.sql, s.params⟩ := by
  obtain ⟨hne, pieces, hflatten, hregions⟩ := opaque_generated hq hrest
  rw [← String.toList_append] at hregions
  refine ⟨⟨pieces, hflatten, hregions⟩, fun bag => ?_⟩
  have hmissing : missing bag (regions d (q ++ rest).toList) = missing bag (regions d rest.toList) := by
    rw [hregions, missing_append, missing_verbatim, List.nil_append]
  have hbehind : Sql.push .empty q = Sql.behind q .empty := by
    simp [Sql.push, hne, Sql.addText, Sql.behind, Sql.empty]
  have hfold : (regions d (q ++ rest).toList).foldl (pushRegion bag) .empty
      = ((regions d rest.toList).foldl (pushRegion bag) .empty).behind q := by
    rw [hregions, List.foldl_append, foldl_verbatim, hflatten, String.ofList_toList, hbehind,
      behind_foldl_pushRegion]
  have hbound : bindSql (q ++ rest) bag d = (bindSql rest bag d).map (·.behind q) := by
    simp only [bindSql, hmissing, hfold]
    cases (missing bag (regions d rest.toList)).isEmpty <;> rfl
  refine ⟨fun e => ?_, hbound, ?_⟩
  · rw [hbound]
    cases bindSql rest bag d <;> simp [Except.map]
  · rw [bind, hbound, bind]
    cases bindSql rest bag d with
    | error e => rfl
    | ok s => simp [Except.map, Sql.build]

/-- A value that looks like the end of its literal, a marker and a comment stays a value. -/
theorem bindSql_generated_injection :
    bind (Dialect.mysql.quoteLiteral "\\' :x -- " ++ " = :v") (.object [("v", .int 1)]) .mysql
      = .ok ⟨"'\\\\'' :x -- ' = ?", [.int 1]⟩ := by
  have hend : ∀ c, (Dialect.mysql.quoteLiteral "\\' :x -- ").toList.getLast? = some c → IsQuote c →
      " = :v".toList.head? ≠ some c := by
    intro c _ hquote
    rcases hquote with rfl | rfl | rfl <;> decide
  have hrest : bind " = :v" (.object [("v", .int 1)]) .mysql = .ok ⟨" = ?", [.int 1]⟩ := by
    with_unfolding_all rfl
  rw [((bindSql_generated (.literal _) hend).2 _).2.2, hrest]
  rfl

end Binding

end QueryLoom

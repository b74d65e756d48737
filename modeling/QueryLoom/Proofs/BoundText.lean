import Mathlib.Tactic.FinCases
import QueryLoom.Proofs.OpaqueText
import QueryLoom.Proofs.Results

/-!
# Bound text is bound

The scan of a text with placeholders finds what it found in the text with markers: the regions
between the markers are the same, and in place of a marker every character of its placeholders is a
region of its own. So binding a text that has been bound changes nothing.

Quotes, casts and comments are those of the scan, which knows no dollar quotes.
-/

namespace QueryLoom.Binding

variable {d : Dialect} {bag : Json}

/-! ### Placeholders -/

/-- The characters that placeholders and what stands between them are made of. -/
def IsPlaced (c : Char) : Prop := c.isDigit = true ∨ c ∈ ['?', '$', ',', ' ', 'N', 'U', 'L']

lemma IsPlaced.notMem {c : Char} (h : IsPlaced c) :
    c ∉ ['\'', '"', '\x60', '#', '-', '/', '*', ':'] := by
  intro hc
  revert h
  unfold IsPlaced
  fin_cases hc <;> decide

/-- A character of a placeholder begins no quote, comment, cast or marker, whatever follows. -/
lemma IsPlaced.not_isOpening {c : Char} (h : IsPlaced c) (d : Dialect) (rest : List Char) :
    ¬ IsOpening d c rest := by
  rintro ((rfl | rfl | rfl) | ⟨-, rfl⟩ | ⟨rfl, -⟩ | ⟨rfl, -⟩ | ⟨rfl, -⟩)
  all_goals exact h.notMem (by decide)

lemma isPlaced_placeholder (d : Dialect) (index : Nat) :
    ∀ c ∈ (d.placeholder index).toList, IsPlaced c := by
  intro c hc
  cases d with
  | postgres =>
    simp only [Dialect.placeholder, Nat.toString_eq_repr, String.toList_append,
      Nat.toList_repr] at hc
    rcases List.mem_append.mp hc with hc | hc
    · obtain rfl : c = '$' := by simpa using hc
      exact .inr (by decide)
    · exact .inl (Nat.isDigit_of_mem_toDigits (by omega) (by omega) hc)
  | mysql | sqlite =>
    obtain rfl : c = '?' := by simpa [Dialect.placeholder] using hc
    exact .inr (by decide)

lemma placeholder_ne_empty (d : Dialect) (index : Nat) : d.placeholder index ≠ "" := by
  cases d <;> simp [Dialect.placeholder]

lemma valueContent_cons (v : Json) (vs : List Json) :
    valueContent (.array (v :: vs))
      = .value v :: vs.flatMap fun y => Symbol.ofText ", " ++ [.value y] :=
  Sql.intercalate_cons_eq _ _ v vs

/-- Between the placeholders of a value stand commas and blanks, and `NULL` instead of none. -/
lemma isPlaced_valueContent (v : Json) : ∀ c, .char c ∈ valueContent v → IsPlaced c := by
  intro c hc
  cases v with
  | array items =>
    cases items with
    | nil =>
      simp [valueContent, Sql.listContent, Symbol.ofText] at hc
      exact .inr (by rcases hc with rfl | rfl | rfl <;> decide)
    | cons v vs =>
      simp [valueContent_cons, Symbol.ofText] at hc
      exact .inr (by rcases hc.2 with rfl | rfl <;> decide)
  | _ => simp [valueContent] at hc

lemma isPlaced_written (d : Dialect) (index : Nat) {w : List Symbol}
    (h : ∀ c, .char c ∈ w → IsPlaced c) : ∀ c ∈ Dml.written d index w, IsPlaced c := by
  induction w generalizing index with
  | nil => simp [Dml.written]
  | cons x w ih =>
    have hw := fun index => ih index fun c hc => h c (List.mem_cons_of_mem x hc)
    cases x with
    | char c => exact List.forall_mem_cons.mpr ⟨h c List.mem_cons_self, hw index⟩
    | value v => exact List.forall_mem_append.mpr ⟨isPlaced_placeholder d index, hw (index + 1)⟩

lemma written_valueContent_ne_nil (d : Dialect) (index : Nat) (v : Json) :
    Dml.written d index (valueContent v) ≠ [] := by
  cases v with
  | array items =>
    cases items with
    | nil => simp [valueContent, Sql.listContent]
    | cons v vs => simp [valueContent_cons, Dml.written, placeholder_ne_empty]
  | _ => simp [valueContent, Dml.written, placeholder_ne_empty]

/-! ### Regions of bound text -/

/-- Every character is a region of its own. -/
def singles (cs : List Char) : List Region := cs.map fun c => .verbatim [c]

/-- The regions of a bound text: those of the text, with single characters for the placeholders in
place of each marker. `index` is the number of the first placeholder. -/
def placed (d : Dialect) (bag : Json) : (index : Nat) → List Region → List Region
  | _, [] => []
  | index, .verbatim text :: rs => .verbatim text :: placed d bag index rs
  | index, .marker name :: rs =>
    let symbols := Region.content bag (.marker name)
    singles (Dml.written d index symbols) ++
      placed d bag (index + (Dml.values symbols).length) rs

lemma isCut_singles {cs : List Char} (h : ∀ c ∈ cs, IsPlaced c) {rs : List Region}
    {rest : List Char} (hrest : IsCut d rs rest) : IsCut d (singles cs ++ rs) (cs ++ rest) := by
  induction cs with
  | nil => exact hrest
  | cons c cs ih =>
    obtain ⟨hc, hcs⟩ := List.forall_mem_cons.mp h
    exact .cons (.single (hc.not_isOpening d _)) (ih hcs)

lemma written_verbatim (d : Dialect) (index : Nat) (text : List Char) (w : List Symbol) :
    Dml.written d index (text.map .char ++ w) = text ++ Dml.written d index w := by
  have h := Dml.written_ofText_append d index (String.ofList text) w
  rwa [Symbol.ofText, String.toList_ofList] at h

/-- Text without markers is read alike before the regions of a text and before what they are bound
as: where a marker began there is a placeholder, and any other region begins as it began. -/
lemma Reads.of_isCut {text rest : List Char} (h : Reads d (.verbatim text) rest)
    {rs : List Region} (hcut : IsCut d rs rest)
    (hvalues : ∀ name ∈ markerNames rs, (valueOf? bag name).isSome = true) (index : Nat) :
    Reads d (.verbatim text) (Dml.written d index (rs.flatMap (Region.content bag))) := by
  cases hcut with
  | nil => exact h
  | @cons r rs rest hreads hcut =>
    cases r with
    | verbatim piece =>
      obtain ⟨c, piece, rfl⟩ := List.exists_cons_of_ne_nil hreads.source_ne_nil
      rw [List.flatMap_cons, Region.content, written_verbatim]
      exact h.of_head? (List.cons_ne_nil _ _) rfl
    | marker name =>
      obtain ⟨v, hv⟩ := Option.isSome_iff_exists.mp (hvalues name List.mem_cons_self)
      have hplaced := isPlaced_written d index (isPlaced_valueContent v)
      rw [List.flatMap_cons, Region.content, hv, Option.map_some, Option.getD_some,
        Dml.written_append]
      obtain ⟨c, cs, hcs⟩ := List.exists_cons_of_ne_nil (written_valueContent_ne_nil d index v)
      rw [hcs] at hplaced ⊢
      have hc := (hplaced c List.mem_cons_self).notMem
      simp only [List.mem_cons, not_or] at hc
      refine h.of_colon ?_ (by tauto) (by tauto)
      rintro (rfl | rfl | rfl) <;> tauto

lemma isCut_placed {rs : List Region} {cs : List Char} (h : IsCut d rs cs)
    (hvalues : ∀ name ∈ markerNames rs, (valueOf? bag name).isSome = true) (index : Nat) :
    IsCut d (placed d bag index rs) (Dml.written d index (rs.flatMap (Region.content bag))) := by
  induction h generalizing index with
  | nil => exact .nil
  | @cons r rs rest hreads hcut ih =>
    cases r with
    | verbatim text =>
      rw [List.flatMap_cons, Region.content, written_verbatim]
      exact .cons (hreads.of_isCut hcut hvalues index) (ih hvalues index)
    | marker name =>
      obtain ⟨hname, hothers⟩ := List.forall_mem_cons.mp hvalues
      obtain ⟨v, hv⟩ := Option.isSome_iff_exists.mp hname
      have hcontent : Region.content bag (.marker name) = valueContent v := by
        simp [Region.content, hv]
      rw [List.flatMap_cons, Dml.written_append, placed, hcontent]
      exact isCut_singles (isPlaced_written d index (isPlaced_valueContent v))
        (ih hothers _)

lemma markerNames_append (rs rs' : List Region) :
    markerNames (rs ++ rs') = markerNames rs ++ markerNames rs' := List.filterMap_append

lemma markerNames_placed (index : Nat) (rs : List Region) :
    markerNames (placed d bag index rs) = [] := by
  fun_induction placed d bag index rs with
  | case1 => rfl
  | case2 index text rs ih => exact ih
  | case3 index name rs symbols ih =>
    have hsingles : markerNames (singles (Dml.written d index symbols)) = [] := by
      simp [markerNames, singles, List.filterMap_map]
    rw [markerNames_append, hsingles, ih, List.append_nil]

/-! ### Binding twice -/

/-- A text without markers is bound as it is. -/
lemma bind_of_no_markers {sql : String} (h : markerNames (regions d sql.toList) = [])
    (bag : Json) : bind sql bag d = .ok ⟨sql, []⟩ := by
  obtain ⟨pieces, hpieces⟩ := exists_pieces h
  have hflatten : pieces.flatten = sql.toList := by
    rw [← flatMap_source_verbatim, ← hpieces, flatMap_source_regions]
  have hok : bindSql sql bag d = .ok (Sql.push .empty sql) := by
    refine bindSql_ok_iff.mpr ⟨?_, ?_⟩
    · rw [hpieces, missing_verbatim]
    · rw [hpieces, foldl_verbatim, hflatten, String.ofList_toList]
  have hbuild : (Sql.push .empty sql).build d = ⟨sql, []⟩ := by
    by_cases hempty : sql = ""
    · subst hempty
      rfl
    · simp [Sql.push, hempty, Sql.build, Sql.render, Sql.empty, Sql.addText, Sql.texts]
  rw [bind, hok, Except.map, hbuild]

/-- A bound text is bound again as it is, whatever values there are now. Its regions are those of
the text that was bound, with placeholders in place of the markers: none of them is a marker, and
no character of a placeholder begins a region of more than itself or belongs to another region.
Quotes, casts and comments are those of the scan, which does not know the quotes that Postgres
writes with dollars: there `$:a` becomes `$$1`, and the two dollars are text to the scan. -/
theorem bind_bound {sql : String} {s : Statement} (h : bind sql bag d = .ok s) (bag' : Json) :
    bind s.sql bag' d = .ok ⟨s.sql, []⟩ ∧
      regions d s.sql.toList = placed d bag 1 (regions d sql.toList) ∧
      markerNames (regions d s.sql.toList) = [] ∧
      ∀ v index, ∀ c ∈ Dml.written d index (valueContent v), ∀ rest, ¬ IsOpening d c rest := by
  obtain ⟨q, hq, rfl⟩ := SqlResult.map_eq_ok.mp h
  obtain ⟨hmissing, rfl⟩ := bindSql_ok_iff.mp hq
  have hextends := foldl_pushRegion_extends bag (regions d sql.toList) .empty
  have hsql := Dml.toList_sql_build (hextends.aligned Sql.aligned_empty) d
  rw [hextends.content Sql.aligned_empty, Sql.content_empty, List.nil_append] at hsql
  have hcut := isCut_placed (isCut_regions d sql.toList) ((missing_eq_nil_iff _ _).mp hmissing) 1
  rw [← hsql] at hcut
  have hregions := ((isCut_iff d _ _).mp hcut).symm
  have hnone := hregions ▸ markerNames_placed 1 (regions d sql.toList)
  refine ⟨bind_of_no_markers hnone bag', hregions, hnone, fun v index c hc rest => ?_⟩
  exact (isPlaced_written d index (isPlaced_valueContent v) c hc).not_isOpening d rest

/-- Placeholders form nothing with a doubled colon, a dash, a dot and an open quote beside them. -/
theorem bind_bound_seams :
    bind ":::v. -:w'" (.object [("v", .array []), ("w", .array [.int 1, .int 2])]) .postgres
        = .ok ⟨"::NULL. -$1, $2'", [.int 1, .int 2]⟩ ∧
      bind "::NULL. -$1, $2'" (.object [("NULL", .null)]) .postgres
        = .ok ⟨"::NULL. -$1, $2'", []⟩ := by
  have hbound : bind ":::v. -:w'"
      (.object [("v", .array []), ("w", .array [.int 1, .int 2])]) .postgres
        = .ok ⟨"::NULL. -$1, $2'", [.int 1, .int 2]⟩ := by with_unfolding_all rfl
  exact ⟨hbound, (bind_bound hbound _).1⟩

end QueryLoom.Binding

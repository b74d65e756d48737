import Mathlib.Data.List.Chain
import QueryLoom.Proofs.OpaqueText
import QueryLoom.Proofs.TrimmedText

/-!
# Reading declared indexes

The statements that create a table are read for the names of the indexes they declare. On MySQL
these are the keys among the pieces between commas, where nothing in quotes counts; elsewhere each
index has a statement of its own.
-/

namespace QueryLoom.Ddl

open Binding (IsQuote Quoted takeQuoted hasEscapes)

/-! ### Reading indexes -/

instance : DecidablePred IsQuote := fun c =>
  inferInstanceAs (Decidable (c = '\'' ∨ c = '"' ∨ c = '\x60'))

/-- A text without what stands in quotes. -/
def outsideQuotes (d : Dialect) : List Char → List Char
  | [] => []
  | c :: cs =>
    if IsQuote c then outsideQuotes d (takeQuoted (hasEscapes d c) c cs).2
    else c :: outsideQuotes d cs
termination_by cs => cs.length
decreasing_by
  · have hlength := congrArg List.length (Binding.append_takeQuoted (hasEscapes d c) c cs)
    rw [List.length_append] at hlength
    rw [List.length_cons]
    omega
  · exact Nat.lt_succ_self _

/-- The name of a key: what stands behind `KEY` up to the blank in front of the columns. -/
def keyName? (piece : List Char) : Option String :=
  if " KEY ".toList.isPrefixOf piece then
    let text := piece.drop 5
    if " (".toList.isPrefixOf (text.dropWhile (· ≠ ' ')) then
      some (String.ofList (text.takeWhile (· ≠ ' ')))
    else none
  else none

/-- The names of the keys among the pieces between commas. -/
def keyNames (text : List Char) : List String := (text.splitOn ',').filterMap keyName?

/-- The name of an index that is created on its own. -/
def createdIndex? (text : List Char) : Option String :=
  let head := "CREATE INDEX IF NOT EXISTS ".toList
  if head.isPrefixOf text then some (String.ofList ((text.drop head.length).takeWhile (· ≠ ' ')))
  else none

/-- The names of the indexes that a statement declares. -/
def indexNames (d : Dialect) (s : Statement) : List String :=
  if d.inlineIndexes then keyNames (outsideQuotes d s.sql.toList)
  else (createdIndex? s.sql.toList).toList

/-! ### Texts between quotes -/

section Quotes

variable {d : Dialect} {text bare more bare' : List Char}

lemma outsideQuotes_append (d : Dialect) (h : ∀ c ∈ text, ¬ IsQuote c)
    (rest : List Char) : outsideQuotes d (text ++ rest) = text ++ outsideQuotes d rest := by
  induction text with
  | nil => rfl
  | cons c text ih =>
    obtain ⟨hc, htext⟩ := List.forall_mem_cons.mp h
    rw [List.cons_append, outsideQuotes, if_neg hc, ih htext, List.cons_append]

/-- Outside of the quotes of the text stands `bare`, if the text is not followed by one more
quote. -/
def Bares (d : Dialect) (text bare : List Char) : Prop :=
  ∀ rest, (∀ c ∈ rest.head?, ¬ IsQuote c) →
    outsideQuotes d (text ++ rest) = bare ++ outsideQuotes d rest

lemma bares_of_forall (h : ∀ c ∈ text, ¬ IsQuote c) : Bares d text text :=
  fun rest _ => outsideQuotes_append d h rest

lemma Bares.append_left (htext : ∀ c ∈ text, ¬ IsQuote c) (h : Bares d more bare) :
    Bares d (text ++ more) (text ++ bare) := by
  intro rest hrest
  rw [List.append_assoc, outsideQuotes_append d htext, h rest hrest, List.append_assoc]

lemma Bares.append (h : Bares d text bare) (hmore : Bares d more bare')
    (hhead : ∀ c ∈ more.head?, ¬ IsQuote c) : Bares d (text ++ more) (bare ++ bare') := by
  intro rest hrest
  have hnext : ∀ c ∈ (more ++ rest).head?, ¬ IsQuote c := by
    cases more with
    | nil => exact hrest
    | cons c more => exact hhead
  rw [List.append_assoc, h _ hnext, hmore rest hrest, List.append_assoc]

lemma bares_quoted {q : Char} (hq : IsQuote q)
    (h : ∀ rest : List Char, rest.head? ≠ some q → Quoted (hasEscapes d q) q text rest) :
    Bares d (q :: text) [] := by
  intro rest hrest
  have hslash : q ≠ '\\' := by
    rcases hq with rfl | rfl | rfl <;> decide
  have hquoted := h rest fun hhead => hrest q hhead hq
  rw [List.cons_append, outsideQuotes, if_pos hq, hquoted.takeQuoted_eq hslash, List.nil_append]

lemma bares_quoteLiteral (d : Dialect) (value : String) :
    Bares d (d.quoteLiteral value).toList [] := by
  rw [Dialect.quoteLiteral, String.toList_ofList]
  exact bares_quoted (.inl rfl) fun rest => Binding.quoted_literal d value.toList

/-- What stands of a part outside of quotes. -/
def bareName : IdentPart → List Char
  | .plain name => name.toList
  | .quoted _ => []

lemma bares_part (d : Dialect) {p : IdentPart} (hp : Dml.Legible p) :
    Bares d (p.toSql d).toList (bareName p) := by
  cases p with
  | plain name =>
    refine bares_of_forall fun c hc => ?_
    have hplain := Ident.isPlainChar_of_isPlain hp c hc
    rintro (rfl | rfl | rfl) <;> revert hplain <;> decide
  | quoted name =>
    have hescapes : hasEscapes d d.identQuote = false := by cases d <;> rfl
    rw [IdentPart.toSql, Dialect.quoteIdent, String.toList_ofList, Text.enclosed]
    refine bares_quoted (Binding.isQuote_identQuote d) fun rest => ?_
    rw [hescapes]
    exact Binding.quoted_doubled d.identQuote name.toList

/-- Where each of some texts has something outside of quotes that a property holds of, so have
the texts with a separator between, if the property is kept by appending. -/
lemma exists_bare_intercalate {α : Type} {sep : String} (hne : sep ≠ "")
    (hsep : ∀ c ∈ sep.toList, ¬ IsQuote c) {P : List Char → Prop} (hnil : P []) (hP : P sep.toList)
    (happend : ∀ {cs cs'}, P cs → P cs' → P (cs ++ cs')) {texts : α → String} {xs : List α}
    (h : ∀ x ∈ xs, ∃ bare, Bares d (texts x).toList bare ∧ P bare) :
    ∃ bare, Bares d (sep.intercalate (xs.map texts)).toList bare ∧ P bare := by
  induction xs with
  | nil => exact ⟨[], bares_of_forall (by simp), hnil⟩
  | cons x xs ih =>
    obtain ⟨⟨bare, hbare, hx⟩, hxs⟩ := List.forall_mem_cons.mp h
    obtain ⟨bare', hbare', hrest⟩ := ih hxs
    cases xs with
    | nil =>
      rw [List.map_singleton, String.intercalate_singleton]
      exact ⟨bare, hbare, hx⟩
    | cons y ys =>
      obtain ⟨s, cs, hs⟩ := List.exists_cons_of_ne_nil (by simpa using hne : sep.toList ≠ [])
      have hhead : ∀ c ∈ (sep.toList ++ (sep.intercalate ((y :: ys).map texts)).toList).head?,
          ¬ IsQuote c := by
        rw [hs]
        rintro c ⟨⟩
        exact hsep s (by simp [hs])
      refine ⟨bare ++ (sep.toList ++ bare'), ?_, happend hx (happend hP hrest)⟩
      rw [List.map_cons, List.map_cons, String.intercalate_cons_cons, ← List.map_cons,
        String.toList_append, String.toList_append, List.append_assoc]
      exact hbare.append (.append_left hsep hbare') hhead

end Quotes

/-! ### Pieces between commas -/

lemma keyNames_append_cons (cs cs' : List Char) :
    keyNames (cs ++ ',' :: cs') = keyNames cs ++ keyNames cs' := by
  rw [keyNames, Text.splitOn_append_cons, List.filterMap_append, keyNames, keyNames]

lemma keyNames_of_notMem {piece : List Char} (h : ',' ∉ piece) :
    keyNames piece = (keyName? piece).toList := by
  rw [keyNames, Text.splitOn_of_notMem h]
  cases hname : keyName? piece <;> simp [hname]

/-- No parenthesis stands behind a blank. -/
def Unopened (cs : List Char) : Prop := cs.IsChain fun c c' => ¬ (c = ' ' ∧ c' = '(')

/-- No parenthesis stands behind a blank, nor at the beginning. -/
def Unkeyed (cs : List Char) : Prop := Unopened (' ' :: cs)

instance (cs : List Char) : Decidable (Unkeyed cs) :=
  inferInstanceAs (Decidable (List.IsChain _ (' ' :: cs)))

lemma Unkeyed.unopened {cs : List Char} (h : Unkeyed cs) : Unopened cs := (List.isChain_cons.mp h).2

lemma Unkeyed.append {cs cs' : List Char} (h : Unkeyed cs) (h' : Unkeyed cs') :
    Unkeyed (cs ++ cs') := by
  refine List.isChain_append.mpr ⟨h, h'.unopened, fun _ _ c hc hopen => ?_⟩
  exact (List.isChain_cons.mp h').1 c hc ⟨rfl, hopen.2⟩

lemma unkeyed_of_notMem {cs : List Char} (h : ' ' ∉ cs) (h' : '(' ∉ cs) : Unkeyed cs := by
  have hunopened {c : Char} : Unopened (c :: cs) := by
    induction cs generalizing c with
    | nil => exact .singleton c
    | cons c' cs ih =>
      obtain ⟨hc, hcs⟩ := not_or.mp (mt List.mem_cons.mpr h)
      obtain ⟨hc', hcs'⟩ := not_or.mp (mt List.mem_cons.mpr h')
      exact .cons_cons (fun hopen => hc' hopen.2.symm) (ih hcs hcs')
  exact hunopened

lemma Unopened.keyName?_eq_none {piece : List Char} (h : Unopened piece) :
    keyName? piece = none := by
  unfold keyName?
  split
  · dsimp only
    refine if_neg fun hopen => ?_
    obtain ⟨rest, hrest⟩ := List.isPrefixOf_iff_prefix.mp hopen
    have hsuffix : " (".toList ++ rest <:+ piece := by
      rw [hrest]
      exact (List.dropWhile_suffix _).trans (List.drop_suffix 5 piece)
    have hchain : Unopened (" (".toList ++ rest) := h.suffix hsuffix
    exact (List.isChain_cons_cons.mp hchain).1 ⟨rfl, rfl⟩
  · rfl

lemma Unopened.keyNames_eq_nil {cs : List Char} (h : Unopened cs) : keyNames cs = [] := by
  by_cases hcomma : ',' ∈ cs
  · obtain ⟨piece, rest, hsplit, hpiece⟩ := List.eq_append_cons_of_mem hcomma
    have hboth : Unopened (piece ++ ',' :: rest) := hsplit ▸ h
    have hfirst : Unopened piece := hboth.left_of_append
    have hrest : Unopened rest := (List.isChain_cons.mp hboth.right_of_append).2
    rw [hsplit, keyNames_append_cons, keyNames_of_notMem hpiece, hfirst.keyName?_eq_none,
      hrest.keyNames_eq_nil]
    rfl
  · rw [keyNames_of_notMem hcomma, h.keyName?_eq_none]
    rfl
termination_by cs.length
decreasing_by
  rw [hsplit, List.length_append, List.length_cons]
  omega

/-- Behind the beginning of something else than a key, up to the next comma, is no key. -/
lemma keyNames_append_eq_nil {front cs : List Char}
    (hfront : Dml.differ " KEY ".toList front = true) (hcomma : ',' ∉ front) (h : Unopened cs) :
    keyNames (front ++ cs) = [] := by
  have hnone (rest : List Char) : keyName? (front ++ rest) = none := by
    rw [keyName?, Dml.not_isPrefixOf_of_differ hfront, if_neg Bool.false_ne_true]
  by_cases hmem : ',' ∈ cs
  · obtain ⟨piece, rest, rfl, hpiece⟩ := List.eq_append_cons_of_mem hmem
    have hrest : Unopened rest := (List.isChain_cons.mp h.right_of_append).2
    rw [← List.append_assoc, keyNames_append_cons, hrest.keyNames_eq_nil,
      keyNames_of_notMem (by simp [hcomma, hpiece]), hnone]
    rfl
  · rw [keyNames_of_notMem (by simp [hcomma, hmem]), hnone]
    rfl

/-- A key is read by its name. -/
lemma keyNames_key {name : String} (hname : ∀ c ∈ name.toList, c ≠ ' ' ∧ c ≠ ',')
    {rest : List Char} (hrest : ',' ∉ rest) :
    keyNames (" KEY ".toList ++ (name.toList ++ (" (".toList ++ rest))) = [name] := by
  have hcomma : ',' ∉ " KEY ".toList ++ (name.toList ++ (" (".toList ++ rest)) := by
    simp only [List.mem_append, not_or]
    exact ⟨by decide, fun h => (hname _ h).2 rfl, by decide, hrest⟩
  have hword : ∀ c ∈ name.toList, decide (c ≠ ' ') = true :=
    fun c hc => decide_eq_true (hname c hc).1
  have hdrop : (" KEY ".toList ++ (name.toList ++ (" (".toList ++ rest))).drop 5
      = name.toList ++ (" (".toList ++ rest) := rfl
  have hspan := @Dml.span_append _ name.toList (" (".toList ++ rest) hword (by simp)
  have hstarts (cs cs' : List Char) : cs.isPrefixOf (cs ++ cs') = true :=
    List.isPrefixOf_iff_prefix.mpr (List.prefix_append cs cs')
  rw [keyNames_of_notMem hcomma, keyName?, if_pos (hstarts _ _), hdrop]
  dsimp only
  rw [hspan.1, hspan.2, if_pos (hstarts _ _), String.ofList_toList, Option.toList_some]

/-! ### Indexes on their own -/

/-- An index that is created on its own is read by its name. -/
lemma createdIndex?_index {name : String} (hname : ' ' ∉ name.toList) (rest : List Char) :
    createdIndex? ("CREATE INDEX IF NOT EXISTS ".toList ++
      (name.toList ++ (" ON ".toList ++ rest))) = some name := by
  have hword : ∀ c ∈ name.toList, decide (c ≠ ' ') = true :=
    fun c hc => decide_eq_true fun hblank => hname (hblank ▸ hc)
  have hspan := @Dml.span_append _ name.toList (" ON ".toList ++ rest) hword (by simp)
  rw [createdIndex?, if_pos (List.isPrefixOf_iff_prefix.mpr (List.prefix_append _ _)),
    List.drop_left, hspan.1, String.ofList_toList]

end QueryLoom.Ddl

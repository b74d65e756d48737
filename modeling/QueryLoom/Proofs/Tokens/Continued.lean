import QueryLoom.Proofs.Tokens.Lexemes
import QueryLoom.Proofs.Tokens.Rereading
import QueryLoom.SqlToken.Layout

/-!
# How a layout continues

What is laid out behind a token begins like the text behind it that was read.
-/

namespace QueryLoom.SqlToken

variable {d : Dialect}

/-! ### How the text of a token begins and ends -/

lemma newline_notMem_extensions (text : List Char) : '\n' ∉ extensions text := by
  unfold extensions
  split <;> decide

lemma Grows.newline_notMem {taken more : List Char} (h : Grows taken more) : '\n' ∉ more := by
  induction h with
  | done => simp
  | @step taken c hc _ _ ih =>
    have hne : c ≠ '\n' := fun h => newline_notMem_extensions taken (h ▸ hc)
    simp [hne.symm, ih]

lemma newline_notMem {p : Char → Bool} {text : List Char} (h : ∀ c ∈ text, p c = true)
    (hp : p '\n' = false) : '\n' ∉ text := by
  intro hmem
  rw [h _ hmem] at hp
  cases hp

lemma Decimal.newline_notMem {digits rest : List Char} (h : Decimal digits rest) :
    '\n' ∉ digits :=
  SqlToken.newline_notMem (p := fun c => Text.isAsciiDigit c || c == '.') h.forall_mem (by decide)

lemma Numeral.newline_notMem {text rest : List Char} (h : Numeral d text rest) : '\n' ∉ text := by
  cases h with
  | plain h => exact h.newline_notMem
  | scientific h _ he =>
    obtain ⟨e, sign, digits, rfl, he, hsign, -, hdigits⟩ := he
    have hd := SqlToken.newline_notMem hdigits (by decide)
    rcases he with rfl | rfl <;> rcases hsign with rfl | rfl | rfl <;> simp [h.newline_notMem, hd]

lemma Symbol.newline_notMem {text source rest : List Char} (h : Symbol d text source rest) :
    '\n' ∉ text := by
  cases h with
  | atOperator hc => rcases hc with rfl | rfl <;> decide
  | questionOperator _ hc => rcases hc with rfl | rfl <;> decide
  | @operator c hc _ more run _ _ hmore _ hrun =>
    have hrun' : '\n' ∉ run := by
      cases hrun with
      | no => simp
      | yes _ _ hrun => exact SqlToken.newline_notMem hrun (by decide)
    have hc' : c ≠ '\n' := by
      have hnamed : c ∉ ['\n'] := notMem_of_class (by cases d <;> decide) hc
      simpa using hnamed
    unfold shown
    split
    · simp [hrun']
    · simp [hc'.symm, hmore.newline_notMem, hrun']
  | _ => decide

lemma Literal.getLast?_text {t : SqlToken} {source rest : List Char} (h : Literal d t source rest) :
    t.text.getLast? ≠ some '\n' := by
  have hlast : ∀ (front : List Char) (c : Char), c ≠ '\n' →
      (front ++ [c]).getLast? ≠ some '\n' := by
    intro front c hc
    simpa [List.getLast?_concat] using hc
  cases h with
  | @quotedWord q hq _ _ _ _ =>
    have hq' : closingQuote q ≠ '\n' := by
      have hnamed : q ∉ ['\n'] := notMem_of_class (by cases d <;> decide) hq
      rw [closingQuote]
      split
      · decide
      · simpa using hnamed
    exact hlast _ _ hq'
  | string hq => rcases hq with rfl | ⟨rfl, -⟩ <;> exact hlast _ _ (by decide)
  | bits _ _ hq => rcases hq with rfl | rfl <;> exact hlast _ _ (by decide)
  | _ => exact hlast _ _ (by decide)

/-- Only a line comment and a word can end with a line break. -/
lemma Spells.getLast?_text {t : SqlToken} {source rest : List Char} (h : Spells d t source rest)
    (hlast : t.text.getLast? = some '\n') :
    (∃ opening body, t = .lineComment opening body) ∨ ∃ text, t = .word text := by
  have hmem := List.mem_of_getLast? hlast
  cases h with
  | blank => exact absurd hmem (by decide)
  | newline => exact absurd hmem (by decide)
  | comment h =>
    cases h with
    | line => exact .inl ⟨_, _, rfl⟩
    | lastLine => exact .inl ⟨_, _, rfl⟩
    | block => simp [SqlToken.text, List.getLast?_append, List.getLast?_cons] at hlast
  | word => exact .inr ⟨_, rfl⟩
  | literal h => exact absurd hlast h.getLast?_text
  | number h => exact absurd hmem h.newline_notMem
  | longNumber h => exact absurd hmem (by simp [SqlToken.text, h.newline_notMem])
  | question _ h =>
    have hnumbers := newline_notMem h (by decide)
    exact absurd hmem (by simp [SqlToken.text, hnumbers])
  | dollar _ h =>
    have htag := newline_notMem h (by decide)
    exact absurd hmem (by simp [SqlToken.text, htag])
  | openParen => exact absurd hmem (by decide)
  | closeParen => exact absurd hmem (by decide)
  | symbol h => exact absurd hmem h.newline_notMem

/-! ### Texts that begin with a token -/

/-- The characters that something is looked at behind. -/
def looked : List Char := ['e', 'E', '+', '-', '&']

variable {read written : List Char} {levels : List (List Char)}

lemma notMem_of_notMem_looked {c : Char} (hc : c ∉ looked) {level : List Char}
    (h : level :: levels ∈ lookaheads) : c ∉ level := by
  have hall : ∀ levels ∈ lookaheads, ∀ level ∈ levels, level ⊆ looked := by decide
  exact fun hmem => hc (hall _ h level List.mem_cons_self hmem)

lemma tail_mem_lookaheads {level : List Char} (h : level :: levels ∈ lookaheads) :
    levels ∈ lookaheads := by
  have hall : ∀ levels ∈ lookaheads, levels.tail ∈ lookaheads := by decide
  exact hall _ h

lemma alike_single {c c' : Char} (h : Restyled c c') (hc : c ∉ looked)
    (hlevels : levels ∈ lookaheads) : Alike levels (c :: read) (c' :: written) := by
  cases levels with
  | nil => exact .done _ _
  | cons level levels => exact .wall h (notMem_of_notMem_looked hc hlevels) _ _ _

/-- Two characters tell a string and a comment from a number and a word. -/
lemma alike_double {c c' e : Char} (h : Restyled c c') (hc : c ≠ '&')
    (he : c = 'e' ∨ c = 'E' → e ∉ ['+', '-']) (hlevels : levels ∈ lookaheads) :
    Alike levels (c :: e :: read) (c' :: e :: written) := by
  have hdone : Alike [[]] (e :: read) (e :: written) := .same e read written
  simp only [lookaheads, List.mem_cons, List.not_mem_nil, or_false] at hlevels
  rcases hlevels with rfl | rfl | rfl | rfl | rfl
  · by_cases hletter : c ∈ ['e', 'E']
    · refine .step h _ (.wall (.refl e) (he ?_) _ _ _)
      simpa using hletter
    · exact .wall h hletter _ _ _
  · exact .wall h (by simpa using hc) _ _ _
  · exact .step h _ hdone
  · exact .wall h List.not_mem_nil _ _ _
  · exact .done _ _

lemma alike_append (h : ∀ levels ∈ lookaheads, Alike levels read written) (text : List Char)
    (hlevels : levels ∈ lookaheads) : Alike levels (text ++ read) (text ++ written) := by
  induction text generalizing levels with
  | nil => exact h levels hlevels
  | cons c text ih =>
    cases levels with
    | nil => exact .done _ _
    | cons level levels => exact .step (.refl c) level (ih (tail_mem_lookaheads hlevels))

lemma Literal.alike {t : SqlToken} {source : List Char} (h : Literal d t source read)
    (hlevels : levels ∈ lookaheads) : Alike levels (source ++ read) (t.text ++ written) := by
  cases h with
  | @quotedWord q hq =>
    have hlooked : q ∉ looked := notMem_of_class (by cases d <;> decide) hq
    exact alike_single (.refl q) hlooked hlevels
  | @string q hq =>
    refine alike_single (.refl q) ?_ hlevels
    rcases hq with rfl | ⟨rfl, -⟩ <;> decide
  | @bits _ c q hc =>
    have hc' : Restyled c 'B' ∧ c ∉ looked := by
      rcases eq_of_toUpper hc with rfl | rfl <;> exact ⟨by simp [Restyled, restylings], by decide⟩
    exact alike_single hc'.1 hc'.2 hlevels
  | @marked c hc =>
    have hc' : Restyled c c.toUpper ∧ c ∉ looked := by
      rcases hc with hc | hc <;> rcases eq_of_toUpper hc with rfl | rfl <;>
        exact ⟨by simp [Restyled, restylings], by decide⟩
    exact alike_single hc'.1 hc'.2 hlevels
  | @escaped c hc =>
    have hc' : Restyled c 'E' ∧ c ≠ '&' := by
      rcases eq_of_toUpper hc with rfl | rfl <;> exact ⟨by simp [Restyled, restylings], by decide⟩
    exact alike_double hc'.1 hc'.2 (fun _ => by decide) hlevels
  | @numbered _ c hc =>
    have hc' : Restyled c 'U' ∧ c ∉ looked := by
      rcases eq_of_toUpper hc with rfl | rfl <;> exact ⟨by simp [Restyled, restylings], by decide⟩
    exact alike_single hc'.1 hc'.2 hlevels
  | hex => exact alike_single (.inr (by decide)) (by decide) hlevels
  | dollars => exact alike_single (.refl '$') (by decide) hlevels

lemma Symbol.alike {text source : List Char} (h : Symbol d text source read)
    (hrest : ∀ levels ∈ lookaheads, Alike levels read written) (hlevels : levels ∈ lookaheads) :
    Alike levels (source ++ read) (text ++ written) := by
  cases h with
  | @operator c hc _ more run _ _ _ _ _ =>
    by_cases hunequal : c :: more = ['!', '=']
    · obtain ⟨rfl, rfl⟩ := List.cons.inj hunequal
      exact alike_single (.inr (by decide)) (by decide) hlevels
    · have hshown : shown (c :: more) = c :: more := if_neg hunequal
      rw [hshown]
      exact alike_append hrest (c :: (more ++ run)) hlevels
  | point => exact alike_single (.refl '.') (by decide) hlevels
  | question => exact alike_single (.refl '?') (by decide) hlevels
  | lastQuestion => exact alike_single (.refl '?') (by decide) hlevels
  | questionOperator => exact alike_single (.refl '?') (by decide) hlevels
  | _ => exact alike_single (.refl '@') (by decide) hlevels

lemma Decimal.alike {digits rest : List Char} (h : Decimal digits rest) (hne : digits ≠ [])
    (more : List Char) (hlevels : levels ∈ lookaheads) :
    Alike levels (digits ++ more ++ read) (digits ++ more ++ written) := by
  obtain ⟨c, digits, rfl⟩ := List.exists_cons_of_ne_nil hne
  have hc : c ∉ looked := notMem_of_class (p := fun c => Text.isAsciiDigit c || c == '.')
    (by decide) (h.forall_mem c List.mem_cons_self)
  exact alike_single (.refl c) hc hlevels

lemma Numeral.alike {text rest : List Char} (h : Numeral d text rest) (more : List Char)
    (hlevels : levels ∈ lookaheads) :
    Alike levels (text ++ more ++ read) (text ++ more ++ written) := by
  cases h with
  | plain h hne => exact h.alike hne.1 more hlevels
  | scientific h hne =>
    rw [List.append_assoc _ _ more]
    exact h.alike hne.1 _ hlevels

lemma laidText_eq {t : SqlToken} (h : ∀ opening body, t ≠ .lineComment opening body) :
    laidText t = t.text := by
  unfold laidText
  split
  · exact absurd rfl (h _ _)
  · rfl

/-- A token that is written begins like the text it was read from, and goes on like it. -/
lemma Spells.alike {t : SqlToken} {source : List Char} (h : Spells d t source read)
    (ht : t ≠ .blank)
    (hrest : (laidText t).getLast? ≠ some '\n' → ∀ levels ∈ lookaheads, Alike levels read written)
    (hlevels : levels ∈ lookaheads) : Alike levels (source ++ read) (laidText t ++ written) := by
  cases h with
  | blank => exact absurd rfl ht
  | newline => exact absurd rfl ht
  | comment h =>
    cases h with
    | block => exact alike_single (.refl '/') (by decide) hlevels
    | line ho =>
      rcases ho with rfl | ⟨-, rfl⟩
      · exact alike_double (.refl '-') (by decide) (by decide) hlevels
      · exact alike_single (.refl '#') (by decide) hlevels
    | lastLine ho =>
      rcases ho with rfl | ⟨-, rfl⟩
      · exact alike_double (.refl '-') (by decide) (by decide) hlevels
      · exact alike_single (.refl '#') (by decide) hlevels
  | @word text _ h =>
    cases h with
    | @bare c hc _ more _ hmore =>
      have hlast : (c :: more).getLast? ≠ some '\n' :=
        notMem_newline (d := d) (List.forall_mem_cons.mpr ⟨by simp [continuesWord, hc], hmore⟩)
      exact alike_append (hrest hlast) (c :: more) hlevels
    | digits _ hdigits hne => exact hdigits.alike hne.1 _ hlevels
    | userVariable => exact alike_single (.refl '@') (by decide) hlevels
    | systemVariable => exact alike_single (.refl '@') (by decide) hlevels
  | literal h =>
    rw [laidText_eq (by rintro opening body rfl; cases h)]
    exact h.alike hlevels
  | number h _ =>
    have halike : Alike levels (source ++ [] ++ read) (source ++ [] ++ written) :=
      h.alike [] hlevels
    rw [List.append_nil] at halike
    exact halike
  | longNumber h => exact h.alike ['L'] hlevels
  | question => exact alike_single (.refl '?') (by decide) hlevels
  | dollar => exact alike_single (.refl '$') (by decide) hlevels
  | openParen => exact alike_single (.refl '(') (by decide) hlevels
  | closeParen => exact alike_single (.refl ')') (by decide) hlevels
  | symbol h =>
    have hlast := mt List.mem_of_getLast? h.newline_notMem
    exact h.alike (hrest hlast) hlevels

/-! ### The layout behind a token -/

/-- The place behind a token that is written. -/
def Place.after (style : FormatStyle) (p : Place) (t : SqlToken) : Place where
  lineStart :=
    match (p.gap (breaksLine style p.depth t) ++ laidText t).getLast? with
    | some c => c == '\n'
    | none => p.lineStart
  pending := false
  depth := p.depth + depthChange t

lemma layFrom_cons (style : FormatStyle) (p : Place) {t : SqlToken} (ht : t ≠ .blank)
    (ts : List SqlToken) : layFrom style p (t :: ts) = p.gap (breaksLine style p.depth t) ++
      (laidText t ++ layFrom style (p.after style t) ts) := by
  rw [← List.append_assoc]
  cases t with
  | blank => exact absurd rfl ht
  | _ => rfl

lemma Place.gap_cases (p : Place) (breaks : Bool) :
    p.gap breaks = [] ∧ (p.lineStart = false → p.pending = false) ∨
      ∃ c, IsGap c ∧ p.gap breaks = [c] := by
  unfold Place.gap
  split
  · next h => exact .inl ⟨rfl, by simp [h]⟩
  · split
    · exact .inr ⟨'\n', .inr rfl, rfl⟩
    · split
      · exact .inr ⟨' ', .inl rfl, rfl⟩
      · next h => exact .inl ⟨rfl, fun _ => by simpa using h⟩

lemma Place.lineStart_after {style : FormatStyle} {p : Place} {t : SqlToken}
    (ht : laidText t ≠ []) :
    (p.after style t).lineStart = ((laidText t).getLast? == some '\n') := by
  obtain ⟨c, hc⟩ := Option.ne_none_iff_exists'.mp (mt List.getLast?_eq_none_iff.mp ht)
  have hlast : (p.gap (breaksLine style p.depth t) ++ laidText t).getLast? = some c := by
    rw [List.getLast?_append, hc]
    rfl
  simp only [Place.after, hlast, hc]
  rfl

@[simp] lemma layFrom_blank (style : FormatStyle) (p : Place) (ts : List SqlToken) :
    layFrom style p (.blank :: ts) = layFrom style { p with pending := true } ts := rfl

lemma layFrom_pending (style : FormatStyle) {p : Place} (hstart : p.lineStart = false)
    (hpending : p.pending = true) (ts : List SqlToken) :
    layFrom style p ts = [] ∨ ∃ c more, IsGap c ∧ layFrom style p ts = c :: more := by
  induction ts generalizing p with
  | nil => exact .inl rfl
  | cons t ts ih =>
    by_cases ht : t = .blank
    · subst ht
      exact ih (p := { p with pending := true }) hstart rfl
    · rw [layFrom_cons style p ht]
      rcases p.gap_cases (breaksLine style p.depth t) with ⟨-, h⟩ | ⟨c, hc, hgap⟩
      · rw [h hstart] at hpending
        cases hpending
      · exact .inr ⟨c, _, hc, by rw [hgap]; rfl⟩

lemma Spells.laidText_ne_nil {t : SqlToken} {source : List Char} (h : Spells d t source read) :
    laidText t ≠ [] := by
  have hsource := h.source_ne_nil
  cases h with
  | comment h =>
    cases h with
    | lastLine ho => simp [laidText, isLineComment_ne_nil ho]
    | _ => simp [laidText, SqlToken.text]
  | word => exact hsource
  | number => exact hsource
  | literal h => cases h <;> simp [laidText, SqlToken.text]
  | symbol h =>
    cases h with
    | operator =>
      simp only [laidText, SqlToken.text, shown]
      split <;> simp
    | _ => simp [laidText, SqlToken.text]
  | _ => simp [laidText, SqlToken.text]

/-- Behind a token that does not end its line, the layout begins like the text that was read. -/
lemma alike_layFrom {ls : List (SqlToken × List Char)} {cs : List Char} (h : Lexes d ls cs)
    (style : FormatStyle) {p : Place} (hp : p.lineStart = false) (hlevels : levels ∈ lookaheads) :
    Alike levels cs (layFrom style p (ls.map Prod.fst)) := by
  induction h generalizing p levels with
  | nil => exact .nil _ _
  | @cons t source rest hspells ls _ ih =>
    by_cases ht : t = .blank
    · subst ht
      rcases layFrom_pending style (p := { p with pending := true }) hp rfl (ls.map Prod.fst) with
        hnil | ⟨c, more, hc, hcons⟩
      · rw [List.map_cons, layFrom_blank, hnil]
        exact .nil _ _
      · rw [List.map_cons, layFrom_blank, hcons]
        exact .gap _ _ hc _
    · rw [List.map_cons, layFrom_cons style p ht]
      rcases p.gap_cases (breaksLine style p.depth t) with ⟨hgap, -⟩ | ⟨c, hc, hgap⟩
      · rw [hgap, List.nil_append]
        refine hspells.alike ht (fun hlast levels hlevels => ih ?_ hlevels) hlevels
        rw [Place.lineStart_after hspells.laidText_ne_nil]
        simpa using hlast
      · rw [hgap]
        exact .gap _ _ hc _

end QueryLoom.SqlToken

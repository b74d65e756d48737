import QueryLoom.Proofs.Tokens.Weight

/-!
# The tokens of a layout

Which layouts of a text keep its tokens and comments: those in which every token reads back in front
of what is written after it. The others lose a token, take it for another one or cannot be read.
-/

namespace QueryLoom.SqlToken

variable {d : Dialect} {read written : List Char}

/-- Every token reads back in the layout from a place on. -/
def settled (d : Dialect) (style : FormatStyle) (p : Place) : List SqlToken → Bool
  | [] => true
  | .blank :: ts => settled d style { p with pending := true } ts
  | t :: ts =>
    isPlain t && !(layFrom style (p.after style t) ts).head?.any (runsOn d t) &&
      settled d style (p.after style t) ts

lemma settled_cons (style : FormatStyle) (p : Place) {t : SqlToken} (ht : t ≠ .blank)
    (ts : List SqlToken) : settled d style p (t :: ts) = true ↔
      (isPlain t = true ∧ Stops (runsOn d t) (layFrom style (p.after style t) ts)) ∧
        settled d style (p.after style t) ts = true := by
  have hstops : ∀ cs : List Char,
      (!cs.head?.any (runsOn d t)) = true ↔ Stops (runsOn d t) cs := by
    intro cs
    cases cs with
    | nil => simp [Stops]
    | cons c cs => simp [stops_cons]
  rw [← hstops]
  cases t with
  | blank => exact absurd rfl ht
  | _ => simp [settled]

/-! ### What a text consists of -/

/-- A text can be read, and has these tokens and comments. -/
def HasEssence (d : Dialect) (cs : List Char) (ts : List SqlToken) : Prop :=
  ∃ ls, Lexes d ls cs ∧ essence (ls.map Prod.fst) = ts

/-- A text begins with the token that is spelled at its start. -/
lemma Spells.hasEssence_iff {t : SqlToken} {source rest : List Char} (h : Spells d t source rest)
    {ts : List SqlToken} : HasEssence d (source ++ rest) ts ↔
      ∃ ts', HasEssence d rest ts' ∧ ts = (core? t).toList ++ ts' := by
  have hcons : ∀ ls : List (SqlToken × List Char), essence (((t, source) :: ls).map Prod.fst)
      = (core? t).toList ++ essence (ls.map Prod.fst) := by
    intro ls
    cases ht : core? t <;> simp [essence, ht]
  constructor
  · rintro ⟨ls, hlexes, rfl⟩
    generalize hcs : source ++ rest = cs at hlexes
    cases hlexes with
    | nil => exact absurd (List.append_eq_nil_iff.mp hcs).1 h.source_ne_nil
    | cons h' hlexes =>
      obtain ⟨rfl, rfl, rfl⟩ := h.unique h' hcs
      exact ⟨_, ⟨_, hlexes, rfl⟩, hcons _⟩
  · rintro ⟨_, ⟨ls, hlexes, rfl⟩, rfl⟩
    exact ⟨_, .cons h hlexes, hcons ls⟩

lemma spells_gap {c : Char} (hc : IsGap c) (rest : List Char) : Spells d .blank [c] rest := by
  rcases hc with rfl | rfl <;>
    exact .blank (by decide) (by cases d <;> decide) fun h => absurd h (by decide)

lemma hasEssence_gap {c : Char} (hc : IsGap c) {cs : List Char} {ts : List SqlToken} :
    HasEssence d (c :: cs) ts ↔ HasEssence d cs ts := by
  rw [← List.singleton_append, (spells_gap hc cs).hasEssence_iff]
  simp [core?]

lemma hasEssence_layFrom {style : FormatStyle} {p : Place} {t : SqlToken} (ht : t ≠ .blank)
    {ts ts' : List SqlToken} : HasEssence d (layFrom style p (t :: ts)) ts' ↔
      HasEssence d (laidText t ++ layFrom style (p.after style t) ts) ts' := by
  rw [layFrom_cons style p ht]
  rcases p.gap_cases (breaksLine style p.depth t) with ⟨hgap, -⟩ | ⟨c, hc, hgap⟩
  · rw [hgap, List.nil_append]
  · rw [hgap]
    exact hasEssence_gap hc

/-! ### Tokens that read back -/

/-- A line comment is written with the line break that ends it. -/
lemma Comment.hasEssence_laidText {opening body source rest : List Char}
    (h : Comment d (.lineComment opening body) source rest) {ts : List SqlToken} :
    HasEssence d (laidText (.lineComment opening body) ++ written) ts ↔
      ∃ ts', HasEssence d written ts' ∧ ts = (core? (.lineComment opening body)).toList ++ ts' := by
  have hend : endsLine d '\n' = true := rfl
  cases h with
  | @line _ ho body e hbody he =>
    have hspells : ∀ rest, Spells d _ (opening ++ (body ++ [e])) rest :=
      fun rest => .comment (.line ho hbody he rest)
    by_cases hnewline : e = '\n'
    · subst hnewline
      rw [← (hspells written).hasEssence_iff]
      simp [laidText]
    · rw [show laidText (.lineComment opening (body ++ [e])) ++ written
        = (opening ++ (body ++ [e])) ++ '\n' :: written by simp [laidText, hnewline],
        (hspells _).hasEssence_iff]
      simp only [hasEssence_gap (.inr rfl)]
  | lastLine ho hbody =>
    have hnewline : body.getLast? ≠ some '\n' := by
      intro hlast
      rw [hbody _ (List.mem_of_getLast? hlast)] at hend
      cases hend
    have hspells : Spells d _ (opening ++ (body ++ ['\n'])) written :=
      .comment (.line ho hbody hend written)
    rw [show laidText (.lineComment opening body) ++ written
      = (opening ++ (body ++ ['\n'])) ++ written by simp [laidText, hnewline],
      hspells.hasEssence_iff]
    simp [core?, hnewline]

lemma ReadsBack.hasEssence_iff {t : SqlToken} (h : ReadsBack d t written) {ts : List SqlToken} :
    HasEssence d (t.text ++ written) ts ↔
      ∃ ts', HasEssence d written ts' ∧ ts = (core? t).toList ++ ts' := by
  rcases h with h | ⟨c, rest, hc, rfl, h⟩
  · exact h.hasEssence_iff
  · rw [← List.singleton_append, ← List.append_assoc, h.hasEssence_iff]
    simp only [List.singleton_append, hasEssence_gap hc]

/-! ### Tokens that do not -/

/-- The text of a token does not begin with the white space of a layout. -/
lemma Spells.head?_text {t : SqlToken} {source rest : List Char} (h : Spells d t source rest)
    (ht : t ≠ .blank) {c : Char} (hc : t.text.head? = some c) : ¬ IsGap c := by
  -- White space that the spelling began with would be the token.
  have hsame : t.text.head? = source.head? → ¬ IsGap c := by
    intro hhead hgap
    obtain ⟨more, rfl⟩ := List.head?_eq_some_iff.mp (hhead.symm.trans hc)
    exact ht (h.unique (spells_gap hgap (more ++ rest)) rfl).1
  have hletter : ∀ {e : Char}, t.text.head? = some e → e ∈ ['B', 'N', 'X', 'E', 'U', '<'] →
      ¬ IsGap c := by
    intro e he hmem hgap
    obtain rfl := Option.some.inj (he.symm.trans hc)
    rcases hgap with rfl | rfl <;> simp at hmem
  cases h with
  | blank | newline => exact absurd rfl ht
  | comment h =>
    cases h with
    | block => exact hsame rfl
    | line ho | lastLine ho =>
      exact hsame (by rcases ho with rfl | ⟨-, rfl⟩ <;> rfl)
  | literal h =>
    cases h with
    | marked hlead => exact hletter rfl (by rcases hlead with h | h <;> rw [h] <;> decide)
    | bits | escaped | numbered | hex => exact hletter rfl (by decide)
    | quotedWord | string | dollars => exact hsame rfl
  | symbol h =>
    cases h with
    | @operator e _ _ more =>
      by_cases hunequal : e :: more = ['!', '=']
      · exact hletter (by rw [SqlToken.text, shown, if_pos hunequal]; rfl) (by decide)
      · exact hsame (by rw [SqlToken.text, shown, if_neg hunequal]; rfl)
    | _ => exact hsame rfl
  | _ => exact hsame rfl

lemma Literal.isPlain_and_stops {t : SqlToken} {source rest : List Char}
    (h : Literal d t source rest) (heq : source ++ rest = t.text ++ written)
    (hweight : weight t.text = weight source) :
    isPlain t = true ∧ Stops (runsOn d t) written := by
  have hplain : ∀ {raw text : List Char}, Decoded raw text → weight text = weight raw →
      (text.any fun c => c == '\'' || c == '\\') = false := by
    intro raw text hdecoded hsame
    rw [Bool.eq_false_iff, Ne, List.any_eq_true]
    rintro ⟨c, hmem, hspecial⟩
    have hless := hdecoded.weight_le.2 ⟨c, hmem, by simpa using hspecial⟩
    omega
  cases h with
  | @escaped c hc raw text _ h =>
    have hsame : weight text = weight raw := by
      simpa [SqlToken.text, charWeight_lead hc (by decide)] using hweight
    exact ⟨by simp [isPlain, hplain (decoded_of_escaped h) hsame], fun _ _ => rfl⟩
  | @numbered _ c hc raw text _ h =>
    have hsame : weight text = weight raw := by
      simpa [SqlToken.text, charWeight_lead hc (by decide)] using hweight
    exact ⟨by simp [isPlain, hplain (decoded_of_numbered h) hsame], fun _ _ => rfl⟩
  | @marked c hc text _ h hrest =>
    obtain ⟨-, hcs⟩ := List.cons.inj heq
    obtain rfl : rest = written := by simpa using hcs
    refine ⟨?_, fun e he => ?_⟩
    · rcases hc with hc | hc <;> rw [hc] <;> rfl
    · have hquote : e ≠ '\'' := by
        rintro rfl
        exact hrest he
      rcases hc with hc | hc <;> rw [hc] <;> simp [runsOn, hquote]
  | hex => simp [SqlToken.text] at heq
  | _ => exact ⟨rfl, fun _ _ => rfl⟩

/-- An operator that runs on was read with what it runs on with. -/
lemma Symbol.stops_operator {c : Char} {text rest : List Char} (hc : startsSymbol d c = true)
    (hquestion : c ≠ '?') (hhead : text.head? = some c)
    (hstop : text = ['<'] → Stops (extensions ['<']).contains rest)
    (hrun : d = .postgres → c = '<' → Stops isOperatorChar rest) :
    Stops (runsOn d (.symbol text)) rest := by
  have hat : c ∉ ['@'] := notMem_of_class (by cases d <;> decide) hc
  intro e he
  unfold runsOn
  split
  case h_2 htext =>
    cases htext
    obtain rfl := Option.some.inj hhead
    by_cases hd : d = .postgres
    · rw [hrun hd rfl e he, Bool.and_false]
    · simp [hd]
  case h_3 htext =>
    cases htext
    have hless := hstop rfl e he
    simp [extensions] at hless
    simpa using hless.2.2.1
  case h_6 htext =>
    cases htext
    exact absurd (Option.some.inj hhead).symm hquestion
  case h_4 htext | h_5 htext =>
    cases htext
    exact absurd (Option.some.inj hhead) (by simpa using Ne.symm (by simpa using hat))
  all_goals first | rfl | contradiction

lemma Symbol.stops {text source rest : List Char} (h : Symbol d text source rest)
    (heq : source ++ rest = text ++ written) (hweight : weight text = weight source) :
    Stops (runsOn d (.symbol text)) written := by
  have hless : source = text → rest = written := by
    rintro rfl
    exact List.append_cancel_left heq
  cases h with
  | point | questionOperator => exact fun _ _ => rfl
  | atOperator hc =>
    intro e he
    rcases hc with rfl | rfl <;> rfl
  | atSymbol hrest =>
    rw [← hless rfl]
    intro e he
    by_cases hd : d = .mysql
    · have hmem := (hrest e he).2 hd
      simp only [List.mem_cons, List.not_mem_nil, or_false] at hmem
      rcases hmem with rfl | rfl | rfl | rfl <;> simp [runsOn]
    · simp [runsOn, hd]
  | doubleAt hrest =>
    rw [← hless rfl]
    intro e he
    by_cases hd : d = .mysql
    · obtain rfl : e = ' ' := by simpa using hrest hd e he
      simp [runsOn]
    · simp [runsOn, hd]
  | @question hd c hc _ =>
    have hgap : IsGap c := by
      by_contra hgap
      have hpos := charWeight_pos hgap
      simp only [weight_cons, weight_nil] at hweight
      omega
    obtain rfl : c :: rest = written := by simpa using heq
    rw [stops_cons]
    rcases hgap with rfl | rfl <;> simp [runsOn]
  | lastQuestion => rw [← hless rfl]; exact stops_nil _
  | @operator c hc hc' more run _ _ _ hstop hrun =>
    have hshown : shown (c :: more) = c :: more := by
      refine if_neg fun hunequal => ?_
      obtain ⟨rfl, rfl⟩ := List.cons.inj hunequal
      simp [shown] at heq
    rw [hshown] at heq ⊢
    obtain rfl := List.append_cancel_left heq
    simp only [List.mem_cons, List.not_mem_nil, or_false, not_or] at hc'
    refine Symbol.stops_operator hc hc'.2.2 rfl ?_ ?_
    · intro htext
      obtain ⟨rfl, hmore⟩ := List.cons.inj htext
      obtain ⟨rfl, rfl⟩ := List.append_eq_nil_iff.mp hmore
      exact hstop
    · rintro hd rfl
      cases hrun with
      | no h => exact absurd ⟨hd, rfl⟩ h
      | yes _ _ _ hrest => exact hrest

/-- A token reads back as itself from no more than its text only where it does not run on. -/
lemma Spells.isPlain_and_stops {t : SqlToken} {source rest : List Char} (h : Spells d t source rest)
    (heq : source ++ rest = t.text ++ written) (hweight : weight t.text = weight source) :
    isPlain t = true ∧ Stops (runsOn d t) written := by
  cases h with
  | @word text _ h =>
    obtain rfl := List.append_cancel_left heq
    have hstops : Stops (continuesWord d) rest := by cases h <;> assumption
    refine ⟨rfl, fun c hc => ?_⟩
    rw [runsOn, hstops c hc, Bool.and_false]
  | literal h => exact h.isPlain_and_stops heq hweight
  | symbol h => exact ⟨rfl, h.stops heq hweight⟩
  | comment h => cases h <;> exact ⟨rfl, fun _ _ => rfl⟩
  | _ => exact ⟨rfl, fun _ _ => rfl⟩

/-- A text of the weight of a token and of those after it begins with that token only where the
token does not run on. -/
lemma Spells.isPlain_and_stops_of_hasEssence {t : SqlToken} {source rest : List Char}
    (h : Spells d t source rest) (ht : t ≠ .blank)
    (hcomment : ∀ opening body, t ≠ .lineComment opening body) {ts : List SqlToken}
    (hessence : HasEssence d (t.text ++ written) (t :: ts))
    (hweight : weight written = tokensWeight ts) :
    isPlain t = true ∧ Stops (runsOn d t) written := by
  obtain ⟨ls, hlexes, hls⟩ := hessence
  have htotal := tokensWeight_essence (ls.map Prod.fst)
  generalize hcs : t.text ++ written = cs at hlexes
  cases hlexes with
  | nil => simp [essence] at hls
  | @cons t' source' rest' hspells ls hlexes =>
    rw [hls] at htotal
    have hfirst := hspells.weight_le
    have hothers := hlexes.weight_le
    have hwhole := congrArg weight hcs
    simp only [List.map_cons, tokensWeight_cons, weight_append] at htotal hwhole
    have hsame : weight t'.text = weight source' := by omega
    have htext : t.text ≠ [] := by
      rw [← laidText_eq hcomment]
      exact h.laidText_ne_nil
    obtain ⟨c, text, htext⟩ := List.exists_cons_of_ne_nil htext
    have hnotBlank : t' ≠ .blank := by
      rintro rfl
      have hgap : IsGap c := by
        obtain ⟨e, more, rfl⟩ := List.exists_cons_of_ne_nil hspells.source_ne_nil
        rw [htext] at hcs
        obtain ⟨rfl, -⟩ := List.cons.inj hcs
        by_contra hgap
        have hpos := charWeight_pos hgap
        have hspace : weight (SqlToken.text .blank) = 0 := rfl
        rw [hspace, weight_cons] at hsame
        omega
      exact h.head?_text ht (by rw [htext]; rfl) hgap
    cases ht' : core? t' with
    | none => exact absurd (core?_eq_none ht') hnotBlank
    | some token =>
      obtain rfl : token = t := by
        rw [List.map_cons, essence, List.filterMap_cons_some ht'] at hls
        exact (List.cons.inj hls).1
      obtain rfl := eq_of_core?_eq_some ht' hcomment
      exact hspells.isPlain_and_stops hcs.symm hsame

/-! ### Layouts -/

/-- One token of a layout: it is kept, and with it what the rest of the layout keeps, exactly if it
reads back. -/
lemma Spells.hasEssence_laidText_iff {t : SqlToken} {source : List Char}
    (h : Spells d t source read) (ht : t ≠ .blank)
    (hr : (∃ text, t = .word text ∧ text.getLast? = some '\n') ∨
      (∃ opening body, t = .lineComment opening body) ∨
      ∀ levels ∈ lookaheads, Alike levels read written)
    {ts : List SqlToken} (hweight : weight written = tokensWeight ts) :
    HasEssence d (laidText t ++ written) ((core? t).toList ++ ts) ↔
      (isPlain t = true ∧ Stops (runsOn d t) written) ∧ HasEssence d written ts := by
  have hrest : (∃ ts', HasEssence d written ts' ∧ (core? t).toList ++ ts = (core? t).toList ++ ts')
      ↔ HasEssence d written ts := by
    simp only [List.append_cancel_left_eq, exists_eq_right']
  by_cases hcomment : ∃ opening body, t = .lineComment opening body
  · obtain ⟨opening, body, rfl⟩ := hcomment
    obtain ⟨_, hspelled⟩ : ∃ rest, Comment d (.lineComment opening body) source rest := by
      cases h with
      | comment h => exact ⟨_, h⟩
      | literal h => cases h
    rw [hspelled.hasEssence_laidText, hrest]
    exact (and_iff_right ⟨rfl, fun _ _ => rfl⟩).symm
  · have hother : ∀ opening body, t ≠ .lineComment opening body :=
      fun opening body heq => hcomment ⟨opening, body, heq⟩
    rw [laidText_eq hother]
    have hreads : isPlain t = true ∧ Stops (runsOn d t) written →
        (HasEssence d (t.text ++ written) ((core? t).toList ++ ts) ↔ HasEssence d written ts) := by
      rintro ⟨hplain, hstops⟩
      have hback := h.reread ht hother hplain hstops (hr.imp_right (·.resolve_left hcomment))
      rw [hback.hasEssence_iff, hrest]
    constructor
    · intro hessence
      have hsettled := h.isPlain_and_stops_of_hasEssence ht hother
        (by rwa [core?_eq_some ht hother] at hessence) hweight
      exact ⟨hsettled, (hreads hsettled).mp hessence⟩
    · rintro ⟨hsettled, hessence⟩
      exact (hreads hsettled).mpr hessence

/-- The layout from a place on keeps the tokens exactly if they are settled there. The induction is
on what was read, and what is laid out after each token begins like what was read after it. -/
lemma Lexes.hasEssence_layFrom_iff {ls : List (SqlToken × List Char)} {cs : List Char}
    (h : Lexes d ls cs) (style : FormatStyle) (p : Place) :
    HasEssence d (layFrom style p (ls.map Prod.fst)) (essence (ls.map Prod.fst)) ↔
      settled d style p (ls.map Prod.fst) = true := by
  induction h generalizing p with
  | nil => exact iff_of_true ⟨[], .nil, rfl⟩ rfl
  | @cons t source rest hspells ls hlexes ih =>
    rw [List.map_cons]
    by_cases hblank : t = .blank
    · subst hblank
      exact ih _
    · rw [hasEssence_layFrom hblank, settled_cons style p hblank, ← ih]
      have hessence : essence (t :: ls.map Prod.fst)
          = (core? t).toList ++ essence (ls.map Prod.fst) := by
        cases ht : core? t <;> simp [essence, ht]
      rw [hessence]
      have hweight := (weight_layFrom style (p.after style t) (ls.map Prod.fst)).trans
        (tokensWeight_essence _).symm
      refine hspells.hasEssence_laidText_iff hblank ?_ hweight
      by_cases hlast : (laidText t).getLast? = some '\n'
      · by_cases hcomment : ∃ opening body, t = .lineComment opening body
        · exact .inr (.inl hcomment)
        · rw [laidText_eq fun opening body heq => hcomment ⟨opening, body, heq⟩] at hlast
          obtain ⟨text, rfl⟩ := (hspells.getLast?_text hlast).resolve_left hcomment
          exact .inl ⟨text, rfl, hlast⟩
      · refine .inr (.inr fun levels hlevels => alike_layFrom hlexes style ?_ hlevels)
        rw [Place.lineStart_after hspells.laidText_ne_nil]
        simpa using hlast

end QueryLoom.SqlToken

namespace QueryLoom

open SqlToken

/-- Formatting keeps the tokens and comments of a readable text exactly if each of them reads back
in front of what is written after it. -/
theorem formatSql_tokens_iff {sql : String} {d : Dialect} {ts : List SqlToken}
    (h : ofText d sql.toList = .ok ts) (style : FormatStyle) :
    (∃ ts', ofText d (formatSql sql d style).toList = .ok ts' ∧ essence ts' = essence ts) ↔
      settled d style .first ts = true := by
  have hformat : (formatSql sql d style).toList = lay style ts := by
    rw [formatSql, h]
    exact String.toList_ofList
  obtain ⟨ls, hlexes, rfl⟩ := ofText_eq_ok_iff.mp h
  rw [← hlexes.hasEssence_layFrom_iff style .first, hformat]
  constructor
  · rintro ⟨ts', hread, hsame⟩
    obtain ⟨ls', hlexes', rfl⟩ := ofText_eq_ok_iff.mp hread
    exact ⟨ls', hlexes', hsame⟩
  · rintro ⟨ls', hlexes', hsame⟩
    exact ⟨_, ofText_eq_ok_iff.mpr ⟨ls', hlexes', rfl⟩, hsame⟩

/-- Pretty text with a comment and an escaped string that needs no escapes keeps its tokens. -/
theorem formatSql_tokens_query : ∃ ts ts',
    ofText .postgres "SELECT a->>'x'  -- b\nFROM E't'".toList = .ok ts ∧
    ofText .postgres (formatSql "SELECT a->>'x'  -- b\nFROM E't'" .postgres .pretty).toList
      = .ok ts' ∧ essence ts' = essence ts := by
  have hread : ofText .postgres "SELECT a->>'x'  -- b\nFROM E't'".toList
      = .ok [.word "SELECT".toList, .blank, .word ['a'], .symbol "->>".toList,
          .string [] '\'' ['x'], .blank, .blank, .lineComment ['-', '-'] " b\n".toList,
          .word "FROM".toList, .blank, .string ['E'] '\'' ['t']] := by
    decide +kernel
  obtain ⟨ts', hts', hsame⟩ := (formatSql_tokens_iff hread .pretty).mpr (by decide +kernel)
  exact ⟨_, ts', hread, hts', hsame⟩

/-- An escaped string is written without its escapes, and its quote then ends it. -/
theorem formatSql_tokens_unescaped : ∃ ts, ofText .postgres "SELECT E'it\\'s'".toList = .ok ts ∧
    ¬ ∃ ts', ofText .postgres (formatSql "SELECT E'it\\'s'" .postgres .compact).toList = .ok ts' ∧
      essence ts' = essence ts := by
  have hread : ofText .postgres "SELECT E'it\\'s'".toList
      = .ok [.word "SELECT".toList, .blank, .string ['E'] '\'' "it's".toList] := by
    decide +kernel
  have hformat : ofText .postgres (formatSql "SELECT E'it\\'s'" .postgres .compact).toList
      = .error "unterminated string" := by
    decide +kernel
  refine ⟨_, hread, ?_⟩
  rintro ⟨ts', hts', -⟩
  rw [hformat] at hts'
  cases hts'

end QueryLoom

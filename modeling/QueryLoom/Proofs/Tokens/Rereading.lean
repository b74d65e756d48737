import QueryLoom.Proofs.Tokens.Lookahead
import QueryLoom.Proofs.Tokens.FirstChar

/-!
# Tokens that read back

A token that is written in front of another text reads back as itself, unless its own text or the
next character is of a kind that the writing does not keep apart.
-/

namespace QueryLoom.SqlToken

/-! ### What does not read back -/

/-- The text of a decoded string, which is written without its escapes, needs none. -/
def isPlain : SqlToken → Bool
  | .string lead _ text =>
    !(lead == ['E'] || lead == ['U', '&']) || !text.any fun c => c == '\'' || c == '\\'
  | _ => true

/-- Written in front of the character, a token takes it in or reads back as another one. -/
def runsOn (d : Dialect) (t : SqlToken) (c : Char) : Bool :=
  match t with
  | .string ['X'] quote _ => c == quote
  | .symbol ['<', '>'] => d == .postgres && isOperatorChar c
  | .symbol ['<'] => c == '<'
  | .symbol ['@'] => d == .mysql && c == '\n'
  | .symbol ['@', '@'] => d == .mysql && c == '\n'
  | .symbol ['?'] => d == .postgres && !(c == ' ' || c == '\n')
  | .word text => text.getLast? == some '\n' && continuesWord d c
  | _ => false

variable {d : Dialect} {read written : List Char}

/-! ### Words and numbers -/

lemma isRobust_continuesWord (d : Dialect) : isRobust (continuesWord d) = true := by
  cases d <;> decide

lemma announcesString_of_continuesWord {c e : Char} (he : continuesWord d e = true)
    (cs : List Char) : announcesString d (c :: e :: cs) = false := by
  have hnamed : e ∉ ['\'', '"', '&'] := notMem_of_class (by cases d <;> decide) he
  simp only [List.mem_cons, List.not_mem_nil, or_false, not_or] at hnamed
  unfold announcesString
  split
  all_goals simp_all

/-- Only what begins with an at sign on MySQL takes in a line break. -/
lemma notMem_newline {text : List Char} (h : ∀ c ∈ text, continuesWord d c = true) :
    text.getLast? ≠ some '\n' := by
  intro hlast
  have hnewline : continuesWord d '\n' = false := by cases d <;> decide
  rw [h _ (List.mem_of_getLast? hlast)] at hnewline
  cases hnewline

lemma startsExponent_cons (c : Char) (cs : List Char) :
    startsExponent (c :: cs) = (c == 'e' || c == 'E') := by
  unfold startsExponent
  split
  · next heq => simp [(List.cons.inj heq).1]
  · next heq => simp [(List.cons.inj heq).1]
  · next hsmall hcapital =>
    have hne : c ≠ 'e' ∧ c ≠ 'E' :=
      ⟨fun hc => hsmall cs (by rw [hc]), fun hc => hcapital cs (by rw [hc])⟩
    simp [hne]

lemma Decimal.reread {digits : List Char} (h : Decimal digits read) {level : List Char}
    {levels : List (List Char)} (hr : Alike (level :: levels) read written) :
    Decimal digits written := by
  cases h with
  | whole h hread => exact .whole h (hr.stops (by decide) hread)
  | point hwhole hfraction hread => exact .point hwhole hfraction (hr.stops (by decide) hread)

/-- Texts with the same first character begin alike, where no more is looked at. -/
lemma Alike.same (c : Char) (read written : List Char) :
    Alike [[]] (c :: read) (c :: written) :=
  .wall (.refl c) List.not_mem_nil [] read written

lemma Word.reread {text : List Char} (h : Word d text read)
    (hr : text.getLast? = some '\n' ∧ Stops (continuesWord d) written ∨
      Alike behindWord read written) : Word d text written := by
  have hstops : Stops (continuesWord d) read → Stops (continuesWord d) written := by
    intro hread
    rcases hr with ⟨-, hwritten⟩ | hr
    · exact hwritten
    · exact hr.stops (isRobust_continuesWord d) hread
  cases h with
  | @bare c hc hat more _ hmore hread hannounces =>
    refine .bare hc hat hmore (hstops hread) ?_
    cases more with
    | nil =>
      rcases hr with ⟨hlast, -⟩ | hr
      · exact absurd hlast (notMem_newline (d := d) (by simp [continuesWord, hc]))
      · exact hr.announcesString hannounces
    | cons e more => exact announcesString_of_continuesWord (hmore e List.mem_cons_self) _
  | @digits hd digits more _ hdigits hne hhex he hne' hmore hread =>
    obtain ⟨e, more, rfl⟩ := List.exists_cons_of_ne_nil hne'
    rw [List.cons_append, startsExponent_cons] at he
    exact .digits hd (hdigits.reread (.same e _ _)) hne hhex
      (by rw [List.cons_append, startsExponent_cons, he]) hne' hmore (hstops hread)
  | userVariable hd hc hc' hmore hread => exact .userVariable hd hc hc' hmore (hstops hread)
  | systemVariable hd hc hmore hread => exact .systemVariable hd hc hmore (hstops hread)

lemma Alike.startsExponent (h : Alike behindNumber read written) {p : Char → Bool}
    (hp : isRobust p = true) (hread : startsExponent read = true) :
    startsExponent written = true ∨ Stops p written := by
  cases h with
  | nil => exact .inr (stops_nil p)
  | gap _ _ hc => exact .inr (stops_cons.mpr (isRobust_gap hp hc))
  | wall h hlevel =>
    rw [startsExponent_cons] at hread
    exact absurd (by simpa using hread) hlevel
  | @step c c' h =>
    rw [startsExponent_cons] at hread ⊢
    refine .inl ?_
    rcases h with rfl | h
    · exact hread
    · have hall : ∀ r ∈ restylings, (r.1 == 'e' || r.1 == 'E') = true →
          (r.2 == 'e' || r.2 == 'E') = true := by decide
      exact hall _ h hread

lemma Numeral.reread {text : List Char} (h : Numeral d text read)
    (hr : Alike behindNumber read written) : Numeral d text written := by
  cases h with
  | plain h hne hhex he hword =>
    refine .plain (h.reread hr) hne (fun hzero => hr.stops (by decide) (hhex hzero))
      (hr.exponent?_eq_none he) fun hd => ?_
    rcases hword hd with hstarts | hstops
    · exact hr.startsExponent (isRobust_continuesWord d) hstarts
    · exact .inr (hr.stops (isRobust_continuesWord d) hstops)
  | @scientific digits exponent _ h hne he hread =>
    obtain ⟨e, sign, tail, rfl, he'⟩ := he
    exact .scientific (h.reread (.same e _ _)) hne ⟨e, sign, tail, rfl, he'⟩
      (hr.stops (by decide) hread)

/-! ### Literals -/

/-- The quotes that end literals. -/
def quotes : List Char := ['\'', '"', '\x60', ']']

lemma Alike.head?_ne {level : List Char} {levels : List (List Char)}
    (h : Alike (level :: levels) read written) {q : Char} (hq : q ∈ quotes)
    (hread : read.head? ≠ some q) : written.head? ≠ some q := by
  have hrobust : ∀ q ∈ quotes, isRobust (· == q) = true := List.all_eq_true.mp (by decide)
  have hstops : Stops (· == q) read := fun c hc => by
    have hne : c ≠ q := by
      rintro rfl
      exact hread hc
    simpa using hne
  intro hhead
  simpa using h.stops (hrobust q hq) hstops q hhead

lemma head?_ne_of_runsOn {t : SqlToken} {q : Char} (h : Stops (runsOn d t) written)
    (hq : runsOn d t q = true) : written.head? ≠ some q := by
  intro hhead
  rw [h q hhead] at hq
  cases hq

lemma inside_of_forall {escapes : Bool} {quote : Char} {text : List Char}
    (h : ∀ c ∈ text, c ≠ quote ∧ c ≠ '\\') : Inside escapes quote text := by
  induction text with
  | nil => exact .nil
  | cons c text ih =>
    obtain ⟨hc, htext⟩ := List.forall_mem_cons.mp h
    exact .other hc.1 (fun he => hc.2 he.2) (ih htext)

lemma Literal.reread {t : SqlToken} {source : List Char} (h : Literal d t source read)
    (hplain : isPlain t = true) {level : List Char} {levels : List (List Char)}
    (hr : Alike (level :: levels) read written) (hruns : Stops (runsOn d t) written) :
    Literal d t t.text written := by
  cases h with
  | @quotedWord q hq text _ h hread =>
    have hclosing : closingQuote q ∈ quotes := by
      rcases opensQuotedWord_cases hq with rfl | rfl | rfl <;> decide
    exact .quotedWord hq h (hr.head?_ne hclosing hread)
  | @string q hq text _ h hread =>
    exact .string hq h (hr.head?_ne (by rcases hq with rfl | ⟨rfl, -⟩ <;> decide) hread)
  | @bits hd c q hc hq text _ h hread =>
    exact .bits hd (c := 'B') rfl hq h (hr.head?_ne (by rcases hq with rfl | rfl <;> decide) hread)
  | @marked c hc text _ h hread =>
    have hc' : c.toUpper.toUpper = c.toUpper := by rcases hc with hc | hc <;> rw [hc] <;> rfl
    have hliteral := Literal.marked (d := d) (c := c.toUpper) (by rwa [hc']) h
      (hr.head?_ne (by decide) hread)
    rwa [hc'] at hliteral
  | @escaped c hc raw text _ h =>
    obtain ⟨-, -, hhead, -⟩ := decoded_of_readEscaped? h
    have htext : ∀ c ∈ text, c ≠ '\'' ∧ c ≠ '\\' := by simpa [isPlain] using hplain
    exact .escaped (c := 'E') rfl (readEscaped?_plain htext (hr.head?_ne (by decide) hhead))
  | @numbered hd c hc raw text _ h =>
    obtain ⟨-, -, hhead, -⟩ := decoded_of_readNumbered? h
    have htext : ∀ c ∈ text, c ≠ '\'' ∧ c ≠ '\\' := by simpa [isPlain] using hplain
    exact .numbered hd (c := 'U') rfl (readNumbered?_plain htext (hr.head?_ne (by decide) hhead))
  | @hex digits _ h hread =>
    have hdigits : ∀ c ∈ digits, c ≠ '\'' ∧ c ≠ '\\' := by
      intro c hc
      have hnamed : c ∉ ['\'', '\\'] := notMem_of_class (by decide) (h c hc)
      simpa using hnamed
    exact .marked (c := 'X') (.inr rfl) (inside_of_forall hdigits)
      (head?_ne_of_runsOn hruns (by simp [runsOn]))
  | @dollars hd tag text htag h _ =>
    have hliteral := Literal.dollars hd htag h written
    simpa [SqlToken.text] using hliteral

/-! ### Symbols -/

/-- A token of text read back where it was written, perhaps with white space after it. -/
def ReadsBack (d : Dialect) (t : SqlToken) (written : List Char) : Prop :=
  Spells d t t.text written ∨
    ∃ c rest, IsGap c ∧ written = c :: rest ∧ Spells d t (t.text ++ [c]) rest

lemma Alike.head_cases {c : Char} {level : List Char} {levels : List (List Char)}
    (h : Alike (level :: levels) read (c :: written)) :
    IsGap c ∨ ∃ e more, read = e :: more ∧ Restyled e c := by
  cases h with
  | gap _ _ hc => exact .inl hc
  | wall h | step h => exact .inr ⟨_, _, rfl, h⟩

/-- A blank or a quote is written as it was read. -/
lemma Restyled.eq_of_mem {c c' : Char} (h : Restyled c c') (hc : c ∈ [' ', '\'', '"', '\x60']) :
    c' = c := by
  rcases h with rfl | h
  · rfl
  · have hall : ∀ r ∈ restylings, r.1 ∉ [' ', '\'', '"', '\x60'] := by decide
    exact absurd hc (hall _ h)

lemma isRobust_extensions {text : List Char} (h : text ≠ ['<']) :
    isRobust (extensions text).contains = true := by
  unfold extensions
  split <;> first | decide | contradiction

lemma stops_extensions {text : List Char} {level : List Char} {levels : List (List Char)}
    (hr : Alike (level :: levels) read written)
    (hruns : Stops (runsOn d (.symbol text)) written)
    (h : Stops (extensions text).contains read) : Stops (extensions text).contains written := by
  by_cases hless : text = ['<']
  · subst hless
    have hrobust : Stops ['=', '>', '@'].contains written := by
      refine hr.stops (by decide) fun c hc => ?_
      have := h c hc
      simp [extensions] at this ⊢
      tauto
    intro c hc
    have h1 := hrobust c hc
    have h2 := hruns c hc
    simp [extensions, runsOn] at h1 h2 ⊢
    tauto
  · exact hr.stops (isRobust_extensions hless) h

/-- A comment that begins where a text is written begins where it was read. -/
lemma Alike.opensComment {c : Char} {level : List Char} {levels : List (List Char)}
    (hr : Alike (level :: levels) read written) (h : OpensComment d (c :: written)) :
    OpensComment d (c :: read) := by
  rcases h with ⟨rest, h⟩ | ⟨rest, h⟩ | ⟨hd, rest, h⟩
  · obtain ⟨rfl, rfl⟩ := List.cons.inj h
    obtain ⟨more, rfl, -⟩ := hr.exists_cons (by decide)
    exact .inl ⟨more, rfl⟩
  · obtain ⟨rfl, rfl⟩ := List.cons.inj h
    obtain ⟨more, rfl, -⟩ := hr.exists_cons (by decide)
    exact .inr (.inl ⟨more, rfl⟩)
  · obtain ⟨rfl, rfl⟩ := List.cons.inj h
    exact .inr (.inr ⟨hd, read, rfl⟩)

/-- A text in front of texts that begin alike. -/
lemma Alike.append {level : List Char} {levels : List (List Char)}
    (hr : Alike (level :: levels) read written) (text : List Char) :
    ∃ level' levels', Alike (level' :: levels') (text ++ read) (text ++ written) := by
  cases text with
  | nil => exact ⟨level, levels, hr⟩
  | cons c text => exact ⟨[], [], .same c _ _⟩

lemma CarriedOn.reread {c : Char} {run : List Char} (h : CarriedOn d c run read) {level : List Char}
    {levels : List (List Char)} (hr : Alike (level :: levels) read written) :
    CarriedOn d c run written := by
  cases h with
  | no h => exact .no h written
  | yes hd hc hrun hread => exact .yes hd hc hrun (hr.stops (by decide) hread)

lemma Symbol.reread {text source : List Char} (h : Symbol d text source read)
    {level : List Char} {levels : List (List Char)} (hr : Alike (level :: levels) read written)
    (hruns : Stops (runsOn d (.symbol text)) written) : ReadsBack d (.symbol text) written := by
  have hquestion : text = ['?'] → d = .postgres → ReadsBack d (.symbol text) written := by
    rintro rfl hd
    cases written with
    | nil => exact .inl (.symbol (.lastQuestion hd))
    | cons e written =>
      have he : IsGap e := by
        have hgap := hruns e rfl
        by_contra hne
        simp only [IsGap, not_or] at hne
        simp [runsOn, hd, hne] at hgap
      refine .inr ⟨e, written, he, rfl, .symbol (.question hd ?_ written)⟩
      rcases he with rfl | rfl <;> decide
  cases h with
  | point hread => exact .inl (.symbol (.point (hr.stops (by decide) hread)))
  | @atSymbol _ hread =>
    have hsigns : Stops ['>', '?', '@'].contains written :=
      hr.stops (by decide) fun c hc => by simpa using (hread c hc).1
    refine .inl (.symbol (.atSymbol fun c hc => ⟨by simpa using hsigns c hc, fun hd => ?_⟩))
    obtain ⟨more, rfl⟩ := List.head?_eq_some_iff.mp hc
    rcases hr.head_cases with (rfl | rfl) | ⟨e, more', rfl, he⟩
    · decide
    · simp [runsOn, hd] at hruns
    · have hquote := (hread e rfl).2 hd
      rwa [he.eq_of_mem hquote]
  | @doubleAt _ hread =>
    refine .inl (.symbol (.doubleAt fun hd c hc => ?_))
    obtain ⟨more, rfl⟩ := List.head?_eq_some_iff.mp hc
    rcases hr.head_cases with (rfl | rfl) | ⟨e, more', rfl, he⟩
    · decide
    · simp [runsOn, hd] at hruns
    · obtain rfl : e = ' ' := by simpa using hread hd
      rw [he.eq_of_mem (by decide)]
      rfl
  | atOperator hc _ => exact .inl (.symbol (.atOperator hc written))
  | question hd => exact hquestion rfl hd
  | lastQuestion hd => exact hquestion rfl hd
  | questionOperator hd hc _ => exact .inl (.symbol (.questionOperator hd hc written))
  | @operator c hc hc' more run _ hcomment hmore hstop hrun =>
    by_cases hunequal : c :: more = ['!', '=']
    · obtain ⟨rfl, rfl⟩ := List.cons.inj hunequal
      obtain rfl : run = [] := by
        cases hrun with
        | no => rfl
        | yes _ hc => exact absurd hc (by decide)
      have hstarts : startsSymbol d '<' = true := by cases d <;> decide
      have hoperator : CarriedOn d '<' [] written := by
        by_cases hd : d = .postgres
        · refine .yes hd (by decide) (by simp) fun c hc => ?_
          simpa [runsOn, shown, hd] using hruns c hc
        · exact .no (fun h => hd h.1) written
      have hcomment' : ¬ OpensComment d ('<' :: (['>'] ++ ([] ++ written))) := by
        rintro (h | h | ⟨-, h⟩) <;> simp at h
      exact .inl (.symbol (.operator hstarts (by decide) hcomment' (.step (by decide) (.done _))
        (fun _ _ => rfl) hoperator))
    · have hshown : shown (c :: more) = c :: more := if_neg hunequal
      rw [hshown] at hruns ⊢
      obtain ⟨_, _, halike⟩ := hr.append run
      obtain ⟨_, _, halike'⟩ := halike.append more
      have hoperator := Symbol.operator hc hc' (fun h => hcomment (halike'.opensComment h)) hmore
        ?_ (hrun.reread hr)
      · rw [hshown] at hoperator
        exact .inl (.symbol hoperator)
      · cases run with
        | nil =>
          rw [List.append_nil] at hruns
          exact stops_extensions hr hruns hstop
        | cons r run => exact stops_cons.mpr (stops_cons.mp hstop)

/-! ### Every token -/

/-- What is looked at behind any token. -/
def lookaheads : List (List (List Char)) := [behindNumber, behindWord, [['+', '-'], []], [[]], []]

/-- A token reads back in front of a text that begins like the one behind which it was read. Of a
word with a line break nothing has to be known but that it goes no further. -/
lemma Spells.reread {t : SqlToken} {source : List Char} (h : Spells d t source read)
    (hblank : t ≠ .blank) (hcomment : ∀ opening body, t ≠ .lineComment opening body)
    (hplain : isPlain t = true) (hruns : Stops (runsOn d t) written)
    (hr : (∃ text, t = .word text ∧ text.getLast? = some '\n') ∨
      ∀ levels ∈ lookaheads, Alike levels read written) : ReadsBack d t written := by
  have halike : (∀ text, t ≠ .word text) → ∀ levels ∈ lookaheads, Alike levels read written := by
    intro hword
    rcases hr with ⟨text, ht, -⟩ | hr
    · exact absurd ht (hword text)
    · exact hr
  cases h with
  | blank => exact absurd rfl hblank
  | newline => exact absurd rfl hblank
  | comment h =>
    cases h with
    | line => exact absurd rfl (hcomment _ _)
    | lastLine => exact absurd rfl (hcomment _ _)
    | block h => exact .inl (.comment (.block h written))
  | @word text _ h =>
    refine .inl (.word (h.reread ?_))
    rcases hr with ⟨_, ht, hlast⟩ | hr
    · obtain rfl := SqlToken.word.inj ht
      refine .inl ⟨hlast, fun c hc => ?_⟩
      simpa [runsOn, hlast] using hruns c hc
    · exact .inr (hr _ (by decide))
  | literal h =>
    have hr := halike (by rintro text rfl; cases h) behindNumber (by decide)
    exact .inl (.literal (h.reread hplain hr hruns))
  | number h hread =>
    have hr := halike (by simp) behindNumber (by decide)
    exact .inl (.number (h.reread hr) (hr.stops (by decide) hread))
  | longNumber h => exact .inl (.longNumber (h.reread (.wall (.refl 'L') (by decide) _ _ _)))
  | question hd h hread =>
    have hr := halike (by simp) behindNumber (by decide)
    exact .inl (.question hd h (hr.stops (by decide) hread))
  | dollar hd htag hread =>
    have hr := halike (by simp) behindNumber (by decide)
    exact .inl (.dollar hd htag (hr.stops (by decide) hread))
  | openParen => exact .inl (.openParen written)
  | closeParen => exact .inl (.closeParen written)
  | symbol h =>
    have hr := halike (by simp) behindNumber (by decide)
    exact h.reread hr hruns

end QueryLoom.SqlToken

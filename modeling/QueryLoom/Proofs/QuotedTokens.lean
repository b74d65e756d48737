import QueryLoom.Proofs.OpaqueText
import QueryLoom.Proofs.Tokens.Lexemes

/-!
# Markers and tokens

The scan for markers and the reading of tokens find quotes and comments each in its own way. Where
they read every literal, quoted identifier and comment alike, and nothing else begins one for the
scan, no marker is found inside such a token and all of them are copied.
-/

namespace QueryLoom

namespace Binding

variable {d : Dialect} {text run rest : List Char}

/-! ### Text without quotes and comments -/

/-- A quoted text or a comment begins for the scan. -/
def opensText (d : Dialect) (c : Char) (rest : List Char) : Bool :=
  ['\'', '"', '\x60'].contains c || (d == .mysql && c == '#') ||
    (c == '-' && rest.head? == some '-') || (c == '/' && rest.head? == some '*')

/-- No quoted text or comment begins in a text in front of `rest`. -/
def isBare (d : Dialect) : (text rest : List Char) → Bool
  | [], _ => true
  | c :: text, rest => !opensText d c (text ++ rest) && isBare d text rest

/-- A character of a marker or of a doubled colon. -/
def isMarkerChar (c : Char) : Bool := c == ':' || isNameChar c

/-- A marker or a doubled colon may go on from a text into what follows. -/
def joined (text rest : List Char) : Bool :=
  text.getLast?.any isMarkerChar && rest.head?.any isMarkerChar

/-- In front of `rest` a text is read as regions that end where it ends. -/
def CutsAt (d : Dialect) (text rest : List Char) : Prop :=
  ∃ rs : List Region, rs.flatMap Region.source = text ∧
    regions d (text ++ rest) = rs ++ regions d rest

lemma not_isOpening {c : Char} (h : opensText d c rest = false)
    (hcolon : c = ':' → ∀ n ∈ rest.head?, n ≠ ':' ∧ startsName n = false) :
    ¬ IsOpening d c rest := by
  rintro (hq | ⟨rfl, rfl⟩ | ⟨rfl, hhead⟩ | ⟨rfl, hhead⟩ | ⟨rfl, n, hn, hmarker⟩)
  · rcases hq with rfl | rfl | rfl <;> simp [opensText] at h
  · simp [opensText] at h
  · simp [opensText, hhead] at h
  · simp [opensText, hhead] at h
  · obtain ⟨hne, hstarts⟩ := hcolon rfl n hn
    rcases hmarker with rfl | hmarker
    · exact hne rfl
    · rw [hstarts] at hmarker
      cases hmarker

lemma isBare_append (text more rest : List Char) :
    isBare d (text ++ more) rest = (isBare d text (more ++ rest) && isBare d more rest) := by
  induction text with
  | nil => rfl
  | cons c text ih => simp only [List.cons_append, isBare, List.append_assoc, ih, Bool.and_assoc]

lemma joined_of_append {text more rest : List Char} (h : joined (text ++ more) rest = false) :
    joined more rest = false := by
  cases hmore : more.getLast? with
  | none => simp [joined, hmore]
  | some c => simpa [joined, List.getLast?_append, hmore] using h

/-- A region that begins in a bare text ends in it. -/
lemma Reads.exists_eq_append {r : Region} {rest' : List Char} (h : Reads d r rest')
    (heq : r.source ++ rest' = run ++ rest) (hne : run ≠ []) (hbare : isBare d run rest = true)
    (hjoined : joined run rest = false) :
    ∃ run', run = r.source ++ run' ∧ rest' = run' ++ rest := by
  obtain ⟨c, run, rfl⟩ := List.exists_cons_of_ne_nil hne
  have hopens : opensText d c (run ++ rest) = false := by
    simp only [isBare, Bool.and_eq_true, Bool.not_eq_true'] at hbare
    exact hbare.1
  replace heq : r.source ++ rest' = c :: (run ++ rest) := heq
  cases h with
  | @quoted q hq =>
    obtain ⟨rfl, -⟩ := List.cons.inj heq
    rcases hq with rfl | rfl | rfl <;> simp [opensText] at hopens
  | @line opening ho text _ _ _ =>
    rcases ho with rfl | ⟨hd, rfl⟩
    · obtain ⟨rfl, hcs⟩ := List.cons.inj heq
      rw [← hcs] at hopens
      simp [opensText] at hopens
    · obtain ⟨rfl, -⟩ := List.cons.inj heq
      simp [opensText, hd] at hopens
  | block | unclosedBlock =>
    obtain ⟨rfl, hcs⟩ := List.cons.inj heq
    rw [← hcs] at hopens
    simp [opensText] at hopens
  | colons =>
    obtain ⟨rfl, hcs⟩ := List.cons.inj heq
    cases run with
    | nil =>
      have hhead : rest.head? = some ':' := by
        rw [← List.nil_append rest, ← hcs]
        rfl
      simp [joined, hhead, isMarkerChar] at hjoined
    | cons e run =>
      obtain ⟨rfl, rfl⟩ := List.cons.inj hcs
      exact ⟨run, rfl, rfl⟩
  | @marker n name dots rest'' hn hname hlast hdots hrest =>
    obtain ⟨rfl, hcs⟩ := List.cons.inj heq
    have hchars : ∀ e ∈ n :: name, isNameChar e = true :=
      List.forall_mem_cons.mpr ⟨isNameChar_of_startsName hn, hname⟩
    rcases List.append_eq_append_iff.mp hcs with ⟨run', rfl, hafter⟩ | ⟨more, hmore, hafter⟩
    · exact ⟨run', rfl, hafter⟩
    · cases more with
      | nil =>
        obtain rfl : n :: name = run := by simpa using hmore
        exact ⟨[], (List.append_nil _).symm, hafter.symm⟩
      | cons e more =>
        -- The name would go on from the text into what follows.
        have hlast : isMarkerChar ((':' :: run).getLast (List.cons_ne_nil _ _)) = true := by
          have hmem := List.getLast_mem (List.cons_ne_nil ':' run)
          generalize (':' :: run).getLast (List.cons_ne_nil _ _) = l at hmem
          rcases List.mem_cons.mp hmem with rfl | hmem
          · rfl
          · simp [isMarkerChar, hchars l (by rw [hmore]; exact List.mem_append_left _ hmem)]
        have hhead : isMarkerChar e = true := by
          simp [isMarkerChar, hchars e (by rw [hmore]; simp)]
        rw [joined, List.getLast?_eq_some_getLast (List.cons_ne_nil _ _), hafter] at hjoined
        simp [hlast, hhead] at hjoined
  | single =>
    obtain ⟨rfl, rfl⟩ := List.cons.inj heq
    exact ⟨run, rfl, rfl⟩

lemma IsCut.exists_eq_append {rs : List Region} {cs : List Char} (h : IsCut d rs cs)
    (hcs : cs = run ++ rest) (hbare : isBare d run rest = true)
    (hjoined : joined run rest = false) :
    ∃ rs', rs'.flatMap Region.source = run ∧ rs = rs' ++ regions d rest := by
  induction h generalizing run with
  | nil =>
    obtain ⟨rfl, rfl⟩ := List.append_eq_nil_iff.mp hcs.symm
    exact ⟨[], rfl, by rw [regions, List.append_nil]⟩
  | @cons r rs rest' hreads hcut ih =>
    by_cases hne : run = []
    · subst hne
      rw [List.nil_append] at hcs
      exact ⟨[], rfl, (isCut_iff d _ _).mp (hcs ▸ .cons hreads hcut)⟩
    · obtain ⟨run', rfl, hrest⟩ := hreads.exists_eq_append hcs hne hbare hjoined
      rw [isBare_append, Bool.and_eq_true] at hbare
      obtain ⟨rs', hsource, rfl⟩ := ih hrest hbare.2 (joined_of_append hjoined)
      exact ⟨r :: rs', by rw [List.flatMap_cons, hsource], rfl⟩

lemma cutsAt_of_isBare (hbare : isBare d run rest = true) (hjoined : joined run rest = false) :
    CutsAt d run rest :=
  (isCut_regions d (run ++ rest)).exists_eq_append rfl hbare hjoined

/-! ### Text that is read alone -/

/-- Read alone, up to the next character, a text has no markers, and no region of it goes on. -/
def readsAlone (d : Dialect) (text rest : List Char) : Bool :=
  let rs := regions d (text ++ rest.take 1)
  (markerNames rs).isEmpty &&
    (rest.isEmpty || rs.getLast?.map Region.source == some (rest.take 1))

lemma opaque_of_isCut {rs : List Region} {cs : List Char} (h : IsCut d rs cs)
    (hnone : markerNames rs = []) {e : Char} (hcs : cs = text ++ [e])
    (hlast : rs.getLast?.map Region.source = some [e]) (more : List Char) :
    Opaque d text (e :: more) := by
  induction h generalizing text with
  | nil => simp at hcs
  | @cons r rs rest' hreads hcut ih =>
    obtain ⟨piece, rfl⟩ : ∃ piece, r = .verbatim piece := by
      cases r with
      | verbatim piece => exact ⟨piece, rfl⟩
      | marker name => simp [markerNames] at hnone
    rcases List.eq_nil_or_concat rest' with rfl | ⟨tail, e', rfl⟩
    · obtain rfl : rs = [] := by rw [(isCut_iff d _ _).mp hcut, regions]
      have hpiece : piece = [e] := by simpa [Region.source] using hlast
      obtain rfl : text = [] := by simpa [Region.source, hpiece] using hcs
      exact .nil d _
    · rw [List.concat_eq_append, ← List.append_assoc] at hcs
      obtain ⟨rfl, he⟩ := List.append_inj' hcs rfl
      have hrs : rs ≠ [] := by
        rintro rfl
        have hsource := flatMap_source_regions d (tail.concat e')
        rw [← (isCut_iff d _ _).mp hcut] at hsource
        simp at hsource
      obtain ⟨r, rs, rfl⟩ := List.exists_cons_of_ne_nil hrs
      obtain rfl : e' = e := by simpa using he
      have hnext : Reads d (.verbatim piece) (tail ++ e' :: more) :=
        hreads.of_head? (by simp) (by cases tail <;> rfl)
      exact (Opaque.of_reads hnext).append (ih hnone List.concat_eq_append (by simpa using hlast))

/-- What is found in a text that is read alone is found in front of the rest. -/
lemma opaque_of_readsAlone (h : readsAlone d text rest = true) : Opaque d text rest := by
  simp only [readsAlone, Bool.and_eq_true, List.isEmpty_iff] at h
  obtain ⟨hnone, hlast⟩ := h
  cases rest with
  | nil =>
    obtain ⟨pieces, hpieces⟩ := exists_pieces hnone
    have hsource := flatMap_source_regions d text
    rw [List.take_nil, List.append_nil] at hpieces
    rw [hpieces, flatMap_source_verbatim] at hsource
    refine ⟨pieces, hsource, ?_⟩
    rw [List.append_nil, hpieces, regions, List.append_nil]
  | cons e more =>
    exact opaque_of_isCut (isCut_regions d (text ++ [e])) hnone rfl (by simpa using hlast) more

end Binding

namespace SqlToken

open Binding

variable {d : Dialect} {rest : List Char}

/-! ### Tokens that are read alike -/

/-- A literal, a quoted identifier or a comment. -/
def isOpaque : SqlToken → Bool
  | .string .. | .dollarString .. | .quotedWord .. | .lineComment .. | .blockComment .. => true
  | _ => false

/-- The scan has a rule for such a token that ends where the token ends. It knows three quotes,
treats backslashes by the dialect alone, ends a line at a line feed only and does not nest
comments. -/
def readAlike (d : Dialect) (t : SqlToken) (source rest : List Char) : Bool :=
  match t with
  | .string lead quote _ =>
    (readQuoted? (hasEscapes d quote) quote (source.drop (lead.length + 1))).any (·.2.isEmpty)
  | .quotedWord quote _ => quote != '['
  | .lineComment _ body => body.getLast? != some '\r' || rest.head?.all (· == '\n')
  | .blockComment body => !decide (['*', '/'] <:+: body)
  | _ => false

/-- The scan reads all such tokens alike or finds nothing in them, finds nothing of their kind in
other tokens and no marker that goes on into them. -/
def scansAlike (d : Dialect) : List (SqlToken × List Char) → Bool
  | [] => true
  | (t, source) :: ls =>
    let rest := ls.flatMap Prod.snd
    (if t.isOpaque then readAlike d t source rest || readsAlone d source rest
      else isBare d source rest && !(ls.head?.any (·.1.isOpaque) && joined source rest)) &&
    scansAlike d ls

lemma Inside.quoted {escapes : Bool} {quote : Char} {text : List Char}
    (h : Inside escapes quote text) (hrest : rest.head? ≠ some quote) :
    Quoted escapes quote (text ++ [quote]) rest := by
  induction h with
  | nil => exact .closed hrest
  | doubled _ ih => exact .doubled ih
  | escaped he c _ ih => exact .escaped he c ih
  | other hc he _ ih => exact .other hc he ih

/-- The characters at which a region of more than one of them may begin. -/
def openers : List Char := ['\'', '"', '\x60', '#', '-', '/', ':']

lemma not_isOpening_of_notMem {c : Char} (hc : c ∉ openers) (rest : List Char) :
    ¬ IsOpening d c rest := by
  rintro (hq | ⟨-, rfl⟩ | ⟨rfl, -⟩ | ⟨rfl, -⟩ | ⟨rfl, -⟩)
  · rcases hq with rfl | rfl | rfl <;> exact hc (by decide)
  all_goals exact hc (by decide)

/-- Quoted text is read to the end of the token where the scan reads its inside alike. -/
lemma opaque_of_readAlike (opening text : List Char) {lead raw : List Char} {q : Char}
    (hq : IsQuote q)
    (hopening : ∀ c ∈ opening, c ∉ openers) (hlength : opening.length = lead.length)
    (hrest : rest.head? ≠ some q)
    (h : readAlike d (.string lead q text) (opening ++ q :: (raw ++ [q])) rest = true) :
    Opaque d (opening ++ q :: (raw ++ [q])) rest := by
  have hdrop : (opening ++ q :: (raw ++ [q])).drop (lead.length + 1) = raw ++ [q] := by
    rw [← hlength, List.drop_append]
    simp
  have hinside : Inside (hasEscapes d q) q raw := by
    simp only [readAlike, hdrop] at h
    obtain ⟨⟨text', rest'⟩, hread, hempty⟩ : ∃ read,
        readQuoted? (hasEscapes d q) q (raw ++ [q]) = some read ∧ read.2.isEmpty = true := by
      simpa [Option.any_eq_true] using h
    obtain ⟨hinside, -, hraw⟩ := inside_of_readQuoted? hread
    obtain rfl : rest' = [] := List.isEmpty_iff.mp hempty
    rwa [List.append_cancel_right hraw]
  exact (Opaque.of_forall (fun c hc more => not_isOpening_of_notMem (hopening c hc) more) _).append
    (.of_reads (.quoted hq (hinside.quoted hrest)))

lemma opaque_of_literal {t : SqlToken} {source : List Char} (h : Literal d t source rest)
    (hread : readAlike d t source rest = true) : Opaque d source rest := by
  have hletter : ∀ {c u : Char}, c.toUpper = u → u ∈ ['B', 'N', 'X', 'E', 'U'] → c ∉ openers := by
    intro c u hc hu
    have hall : ∀ u ∈ ['B', 'N', 'X', 'E', 'U'],
        decide (u ∉ openers ∧ Char.ofNat (u.toNat + 32) ∉ openers) = true :=
      List.all_eq_true.mp (by decide)
    rcases eq_of_toUpper hc with rfl | rfl
    · exact (of_decide_eq_true (hall _ hu)).1
    · exact (of_decide_eq_true (hall u hu)).2
  cases h with
  | @quotedWord q hq text _ h hrest =>
    have hbracket : q ≠ '[' := by simpa [readAlike] using hread
    have hclosing : closingQuote q = q := by simp [closingQuote, hbracket]
    have hquote : q = '"' ∨ q = '\x60' := by
      rcases opensQuotedWord_cases hq with hq | hq | hq
      · exact .inl hq
      · exact .inr hq
      · exact absurd hq hbracket
    have hescapes : hasEscapes d q = false := by rcases hquote with rfl | rfl <;> rfl
    rw [hclosing] at h hrest ⊢
    exact .of_reads (.quoted (.inr hquote) (hescapes ▸ h.quoted hrest))
  | @string q hq text _ _ hrest =>
    have hquote : IsQuote q := hq.imp id fun h => .inl h.1
    exact opaque_of_readAlike [] text hquote (by simp) rfl hrest hread
  | @bits _ c q hc hq text _ _ hrest =>
    have hquote : IsQuote q := hq.imp id .inl
    exact opaque_of_readAlike [c] text hquote (by simpa using hletter hc (by decide)) rfl
      hrest hread
  | @marked c hc text _ _ hrest =>
    have hlead : c ∉ openers := by
      rcases hc with hc | hc <;> exact hletter hc (by decide)
    exact opaque_of_readAlike [c] text (.inl rfl) (by simpa using hlead) rfl hrest hread
  | @escaped c hc raw text _ h =>
    obtain ⟨-, -, hrest, -⟩ := decoded_of_readEscaped? h
    exact opaque_of_readAlike [c] text (.inl rfl)
      (by simpa using hletter hc (by decide)) rfl hrest hread
  | @numbered _ c hc raw text _ h =>
    obtain ⟨-, -, hrest, -⟩ := decoded_of_readNumbered? h
    exact opaque_of_readAlike [c, '&'] text (.inl rfl)
      (by simpa using ⟨hletter hc (by decide), by decide⟩) rfl hrest hread
  | hex h =>
    refine .of_forall (fun c hc more => not_isOpening_of_notMem ?_ more) rest
    simp only [List.mem_cons] at hc
    rcases hc with rfl | rfl | hc
    · decide
    · decide
    · exact notMem_of_class (by decide) (h c hc)
  | dollars => cases hread

lemma opaque_of_comment {t : SqlToken} {source : List Char} (h : Comment d t source rest)
    (hread : readAlike d t source rest = true) : Opaque d source rest := by
  have hnewline : ∀ {body : List Char}, (∀ c ∈ body, endsLine d c = false) → '\n' ∉ body := by
    intro body hbody hmem
    have hend := hbody _ hmem
    simp [endsLine] at hend
  cases h with
  | @line opening ho body e hbody he =>
    have hbody' := hnewline hbody
    by_cases he' : e = '\n'
    · subst he'
      have hgap : Opaque d ['\n'] rest :=
        .of_reads (.single (not_isOpening_of_notMem (by decide) rest))
      rw [← List.append_assoc]
      exact (Opaque.of_reads (.line opening ho hbody' (by simp))).append hgap
    · obtain rfl : e = '\r' := by
        simp only [endsLine, Bool.or_eq_true, Bool.and_eq_true, beq_iff_eq] at he
        exact (he.resolve_left he').2
      have hrest : ∀ c ∈ rest.head?, c = '\n' := by
        simpa [readAlike, Option.all_eq_true] using hread
      exact .of_reads (.line opening ho (by simp [hbody']) hrest)
  | lastLine ho hbody => exact .of_reads (.line _ ho (hnewline hbody) (by simp))
  | block =>
    exact .of_reads (.block (by simpa [readAlike] using hread) rest)

lemma opaque_of_spells {t : SqlToken} {source : List Char} (h : Spells d t source rest)
    (ht : t.isOpaque = true)
    (hread : (readAlike d t source rest || readsAlone d source rest) = true) :
    Opaque d source rest := by
  rcases Bool.or_eq_true_iff.mp hread with hread | hread
  · cases h with
    | comment h => exact opaque_of_comment h hread
    | literal h => exact opaque_of_literal h hread
    | _ => cases ht
  · exact opaque_of_readsAlone hread

/-! ### All tokens of a text -/

lemma scansAlike_cons {t : SqlToken} {source : List Char} {ls : List (SqlToken × List Char)}
    (h : scansAlike d ((t, source) :: ls) = true) : scansAlike d ls = true ∧
      (t.isOpaque = true → (readAlike d t source (ls.flatMap Prod.snd) ||
        readsAlone d source (ls.flatMap Prod.snd)) = true) ∧
      (t.isOpaque = false → isBare d source (ls.flatMap Prod.snd) = true ∧
        (ls.head?.any (·.1.isOpaque) = true → joined source (ls.flatMap Prod.snd) = false)) := by
  simp only [scansAlike, Bool.and_eq_true] at h
  refine ⟨h.2, fun ht => ?_, fun ht => ?_⟩
  · simpa [ht] using h.1
  · have hplain := h.1
    simp only [ht, Bool.false_eq_true, if_false, Bool.and_eq_true, Bool.not_eq_true'] at hplain
    refine ⟨hplain.1, fun hnext => ?_⟩
    simpa [hnext] using hplain.2

/-- The scan cuts a text, in front of which plain text has been read, where an opaque token begins.
The induction is on the tokens; plain text is collected until the next opaque one, since a marker
may take up several tokens. -/
lemma Lexes.cutsAt {ls : List (SqlToken × List Char)} {cs : List Char} (h : Lexes d ls cs)
    (hscan : scansAlike d ls = true) {run : List Char} (hbare : isBare d run cs = true)
    (hjoined : ls.head?.any (·.1.isOpaque) = true → joined run cs = false)
    {before after : List (SqlToken × List Char)} (hls : ls = before ++ after)
    (hafter : after.head?.any (·.1.isOpaque) = true) :
    ∃ rs, rs.flatMap Region.source = run ++ before.flatMap Prod.snd ∧
      regions d (run ++ cs) = rs ++ regions d (after.flatMap Prod.snd) := by
  induction h generalizing run before with
  | nil =>
    obtain ⟨rfl, rfl⟩ := List.append_eq_nil_iff.mp hls.symm
    cases hafter
  | @cons t source rest hspells ls hlexes ih =>
    obtain ⟨hscan', halike, hplain⟩ := scansAlike_cons hscan
    rw [hlexes.flatMap_source] at halike hplain
    cases before with
    | nil =>
      obtain rfl := hls
      obtain ⟨rs, hsource, hregions⟩ := cutsAt_of_isBare hbare (hjoined hafter)
      refine ⟨rs, by simpa using hsource, ?_⟩
      rw [hregions, List.flatMap_cons, hlexes.flatMap_source]
    | cons l before =>
      obtain ⟨rfl, hls'⟩ := List.cons.inj hls
      cases ht : t.isOpaque with
      | true =>
        obtain ⟨rs, hsource, hregions⟩ := cutsAt_of_isBare hbare (hjoined (by simpa using ht))
        obtain ⟨pieces, hpieces, hread⟩ := opaque_of_spells hspells ht (halike ht)
        have hnone : isBare d [] rest = true := rfl
        obtain ⟨rs', hsource', hregions'⟩ := ih hscan' hnone (fun _ => rfl) hls'
        rw [List.nil_append] at hsource' hregions'
        refine ⟨rs ++ (pieces.map .verbatim ++ rs'), ?_, ?_⟩
        · simp only [List.flatMap_append, List.flatMap_cons, hsource, flatMap_source_verbatim,
            hpieces, hsource']
        · rw [hregions, hread, hregions', List.append_assoc, List.append_assoc]
      | false =>
        obtain ⟨hbare', hnext⟩ := hplain ht
        have hrun : isBare d (run ++ source) rest = true := by
          rw [isBare_append, hbare, hbare']
          rfl
        -- Whether a marker goes on is up to the last of the plain tokens.
        have hjoined' : ls.head?.any (·.1.isOpaque) = true →
            joined (run ++ source) rest = false := by
          intro hhead
          obtain ⟨c, hc⟩ := Option.ne_none_iff_exists'.mp
            (mt List.getLast?_eq_none_iff.mp hspells.source_ne_nil)
          simpa [joined, List.getLast?_append, hc] using hnext hhead
        obtain ⟨rs, hsource, hregions⟩ := ih hscan' hrun hjoined' hls'
        refine ⟨rs, ?_, ?_⟩
        · rw [hsource, List.flatMap_cons, List.append_assoc]
        · rw [← hregions, List.append_assoc]

lemma Lexes.spells_of_append {before after : List (SqlToken × List Char)} {t : SqlToken}
    {source cs : List Char} (h : Lexes d (before ++ (t, source) :: after) cs) :
    Spells d t source (after.flatMap Prod.snd) := by
  generalize hls : before ++ (t, source) :: after = ls at h
  induction h generalizing before with
  | nil => simp at hls
  | cons hspells hlexes ih =>
    cases before with
    | nil =>
      obtain ⟨hpair, rfl⟩ := List.cons.inj hls
      obtain ⟨rfl, rfl⟩ := Prod.mk.inj hpair
      rwa [hlexes.flatMap_source]
    | cons l before => exact ih (List.cons.inj hls).2

lemma scansAlike_of_append {before after : List (SqlToken × List Char)}
    (h : scansAlike d (before ++ after) = true) : scansAlike d after = true := by
  induction before with
  | nil => exact h
  | cons l before ih => exact ih (scansAlike_cons h).1

end SqlToken

namespace Binding

open SqlToken

/-- Binding copies every literal, quoted identifier and comment of a readable text and finds no
marker in it, if the scan reads the tokens alike: the regions of the text are those before the
token, its own text in pieces, and those after it. -/
theorem bindSql_copies_tokens {sql : String} {d : Dialect} {ts : List SqlToken}
    (h : ofText d sql.toList = .ok ts) (hscan : scansAlike d (lexemes d sql.toList) = true) :
    Lexes d (lexemes d sql.toList) sql.toList ∧ (lexemes d sql.toList).map Prod.fst = ts ∧
      ∀ before t source after, lexemes d sql.toList = before ++ (t, source) :: after →
        t.isOpaque = true →
        ∃ (rs : List Region) (pieces : List (List Char)) (rs' : List Region),
          regions d sql.toList = rs ++ pieces.map .verbatim ++ rs' ∧
          rs.flatMap Region.source = before.flatMap Prod.snd ∧ pieces.flatten = source ∧
          rs'.flatMap Region.source = after.flatMap Prod.snd ∧
          ∀ bag,
            (∀ q, bindSql sql bag d = .ok q → q.content = rs.flatMap (Region.content bag) ++
              (source.map .char ++ rs'.flatMap (Region.content bag))) ∧
            (∀ e, bindSql sql bag d = .error e →
              e = .unconvertedParameter (missing bag rs ++ missing bag rs')) := by
  obtain ⟨ls, hlexes, hts⟩ := ofText_eq_ok_iff.mp h
  rw [hlexes.lexemes_eq] at hscan ⊢
  refine ⟨hlexes, hts, ?_⟩
  rintro before t source after rfl ht
  have hnone : isBare d [] sql.toList = true := rfl
  obtain ⟨rs, hsource, hregions⟩ :=
    hlexes.cutsAt hscan hnone (fun _ => rfl) rfl (by simpa using ht)
  obtain ⟨-, hread, -⟩ := scansAlike_cons (scansAlike_of_append hscan)
  obtain ⟨pieces, hpieces, hcopied⟩ := opaque_of_spells hlexes.spells_of_append ht (hread ht)
  rw [List.nil_append] at hsource hregions
  rw [List.flatMap_cons, hcopied, ← List.append_assoc] at hregions
  refine ⟨rs, pieces, _, hregions, hsource, hpieces, flatMap_source_regions d _, fun bag => ?_⟩
  have hcontent : (pieces.map Region.verbatim).flatMap (Region.content bag)
      = source.map .char := by
    rw [← hpieces, List.map_flatten, List.flatMap_map]
    rfl
  constructor
  · intro q hq
    obtain ⟨-, rfl⟩ := bindSql_ok_iff.mp hq
    have hextends := foldl_pushRegion_extends bag (regions d sql.toList) .empty
    have hall := hextends.content Sql.aligned_empty
    rw [Sql.content_empty, List.nil_append] at hall
    rw [hall, hregions, List.flatMap_append, List.flatMap_append, hcontent, List.append_assoc]
  · intro e he
    obtain ⟨-, rfl⟩ := bindSql_error_iff.mp he
    rw [hregions, missing_append, missing_append, missing_verbatim, List.append_nil]

/-- A backslash in a string and a quoted identifier with a colon are no markers. -/
theorem bindSql_copies_tokens_query :
    ∃ (rs : List Region) (pieces : List (List Char)) (rs' : List Region),
      regions .postgres "x = N'a\\:b' -- :c\n:d".toList
        = rs ++ pieces.map .verbatim ++ rs' ∧ pieces.flatten = "N'a\\:b'".toList ∧
      rs'.flatMap Region.source = " -- :c\n:d".toList := by
  have hread : ofText .postgres "x = N'a\\:b' -- :c\n:d".toList
      = .ok [.word ['x'], .blank, .symbol ['='], .blank, .string ['N'] '\'' "a\\:b".toList, .blank,
          .lineComment ['-', '-'] " :c\n".toList, .symbol [':'], .word ['d']] := by
    decide +kernel
  have hlexemes : lexemes .postgres "x = N'a\\:b' -- :c\n:d".toList
      = [(.word ['x'], ['x']), (.blank, [' ']), (.symbol ['='], ['=']), (.blank, [' '])] ++
        (.string ['N'] '\'' "a\\:b".toList, "N'a\\:b'".toList) ::
          [(.blank, [' ']), (.lineComment ['-', '-'] " :c\n".toList, "-- :c\n".toList),
            (.symbol [':'], [':']), (.word ['d'], ['d'])] := by
    decide +kernel
  obtain ⟨-, -, htokens⟩ := bindSql_copies_tokens hread (by decide +kernel)
  obtain ⟨rs, pieces, rs', hregions, -, hpieces, hafter, -⟩ := htokens _ _ _ _ hlexemes rfl
  exact ⟨rs, pieces, rs', hregions, hpieces, hafter⟩

/-- A quote behind a backslash ends an escaped string for the scan only, which then finds a marker
inside it. -/
theorem bindSql_copies_tokens_escaped :
    ofText .postgres "SELECT E'it\\'s :x'".toList
      = .ok [.word "SELECT".toList, .blank, .string ['E'] '\'' "it's :x".toList] ∧
    bind "SELECT E'it\\'s :x'" (.object [("x", .int 1)]) .postgres
      = .ok ⟨"SELECT E'it\\'s $1'", [.int 1]⟩ := by
  constructor
  · decide +kernel
  · with_unfolding_all rfl

end Binding

end QueryLoom

import Mathlib.Data.List.DropRight
import Mathlib.Data.List.Infix
import QueryLoom.Binding

/-!
# The regions of SQL text

A text is cut into quoted texts, comments, doubled colons, markers and single characters. The rules
of the cut look at a region and at the text after it, and do not say how either is found. Every text
has exactly one cut, and the scan finds it.
-/

namespace QueryLoom.Binding

/-! ### The rules -/

/-- Quoted text from after its opening quote to its end, before `rest`. A doubled quote and, where
there are escapes, a backslash with the character after it do not end the text. -/
inductive Quoted (escapes : Bool) (quote : Char) : (text rest : List Char) → Prop where
  | unclosed : Quoted escapes quote [] []
  | closed {rest : List Char} (h : rest.head? ≠ some quote) : Quoted escapes quote [quote] rest
  | doubled {text rest : List Char} (h : Quoted escapes quote text rest) :
      Quoted escapes quote (quote :: quote :: text) rest
  | escaped (he : escapes = true) (c : Char) {text rest : List Char}
      (h : Quoted escapes quote text rest) : Quoted escapes quote ('\\' :: c :: text) rest
  | unpaired (he : escapes = true) : Quoted escapes quote ['\\'] []
  | other {c : Char} (hc : c ≠ quote) (he : ¬ (escapes = true ∧ c = '\\'))
      {text rest : List Char} (h : Quoted escapes quote text rest) :
      Quoted escapes quote (c :: text) rest

/-- A quote of a literal or of an identifier. -/
def IsQuote (c : Char) : Prop := c = '\'' ∨ c = '"' ∨ c = '\x60'

/-- What begins a comment that ends with its line. -/
def IsLineComment (d : Dialect) (opening : List Char) : Prop :=
  opening = ['-', '-'] ∨ d = .mysql ∧ opening = ['#']

/-- What begins a region of more than the character `c`. -/
def IsOpening (d : Dialect) (c : Char) (rest : List Char) : Prop :=
  IsQuote c ∨ (d = .mysql ∧ c = '#') ∨ (c = '-' ∧ rest.head? = some '-') ∨
    (c = '/' ∧ rest.head? = some '*') ∨
    (c = ':' ∧ ∃ n ∈ rest.head?, n = ':' ∨ startsName n = true)

/-- A region can be read in front of `rest`. -/
inductive Reads (d : Dialect) : Region → (rest : List Char) → Prop where
  | quoted {q : Char} (hq : IsQuote q) {text rest : List Char}
      (h : Quoted (hasEscapes d q) q text rest) : Reads d (.verbatim (q :: text)) rest
  | line (opening : List Char) (ho : IsLineComment d opening) {text rest : List Char}
      (ht : '\n' ∉ text) (h : ∀ c ∈ rest.head?, c = '\n') :
      Reads d (.verbatim (opening ++ text)) rest
  | block {text : List Char} (h : ¬ ['*', '/'] <:+: text) (rest : List Char) :
      Reads d (.verbatim ('/' :: '*' :: (text ++ ['*', '/']))) rest
  | unclosedBlock {text : List Char} (h : ¬ ['*', '/'] <:+: text) :
      Reads d (.verbatim ('/' :: '*' :: text)) []
  | colons (rest : List Char) : Reads d (.verbatim [':', ':']) rest
  /-- The longest run of name characters is the name, with dots after it. -/
  | marker {n : Char} {name dots rest : List Char} (hn : startsName n = true)
      (hname : ∀ c ∈ name, isNameChar c = true) (hlast : (n :: name).getLast? ≠ some '.')
      (hdots : ∀ c ∈ dots, c = '.') (h : ∀ c ∈ rest.head?, isNameChar c = false) :
      Reads d (.marker (n :: name)) (dots ++ rest)
  | single {c : Char} {rest : List Char} (h : ¬ IsOpening d c rest) :
      Reads d (.verbatim [c]) rest

/-- The regions make up the text, each of them read in front of those after it. -/
inductive IsCut (d : Dialect) : List Region → List Char → Prop where
  | nil : IsCut d [] []
  | cons {r : Region} {rs : List Region} {rest : List Char} (h : Reads d r rest)
      (hrest : IsCut d rs rest) : IsCut d (r :: rs) (r.source ++ rest)

/-! ### Quoted text -/

lemma takeQuoted_other {escapes : Bool} {quote c : Char} (hc : c ≠ quote)
    (he : ¬ (escapes = true ∧ c = '\\')) (cs : List Char) :
    takeQuoted escapes quote (c :: cs)
      = (c :: (takeQuoted escapes quote cs).1, (takeQuoted escapes quote cs).2) := by
  cases cs with
  | nil => rfl
  | cons e rest => simp [takeQuoted, hc, he]

lemma Quoted.takeQuoted_eq {escapes : Bool} {quote : Char} (hquote : quote ≠ '\\')
    {text rest : List Char} (h : Quoted escapes quote text rest) :
    takeQuoted escapes quote (text ++ rest) = (text, rest) := by
  induction h with
  | unclosed => rfl
  | @closed rest h =>
    cases rest with
    | nil => rfl
    | cons c rest =>
      have hc : c ≠ quote := by simpa using h
      simp [takeQuoted, hquote, hc]
  | doubled _ ih => simp [takeQuoted, hquote, ih]
  | escaped he c _ ih =>
    subst he
    simp [takeQuoted, ih]
  | unpaired => rfl
  | other hc he _ ih => rw [List.cons_append, takeQuoted_other hc he, ih]

lemma quoted_takeQuoted (escapes : Bool) (quote : Char) (cs : List Char) :
    Quoted escapes quote (takeQuoted escapes quote cs).1 (takeQuoted escapes quote cs).2 := by
  fun_induction takeQuoted escapes quote cs with
  | case1 => exact .unclosed
  | case2 c =>
    by_cases hc : c = quote
    · exact hc ▸ .closed (by simp)
    · by_cases he : escapes = true ∧ c = '\\'
      · exact he.2 ▸ .unpaired he.1
      · exact .other hc he .unclosed
  | case3 c e rest hce text more htake ih =>
    obtain ⟨he, hc⟩ : escapes = true ∧ c = '\\' := by simpa using hce
    rw [htake] at ih
    exact hc ▸ .escaped he e ih
  | case4 c e rest _ hc he text more htake ih =>
    rw [htake] at ih
    rw [eq_of_beq hc, eq_of_beq he]
    exact .doubled ih
  | case5 c e rest _ hc he =>
    rw [eq_of_beq hc]
    exact .closed (by simpa using he)
  | case6 c e rest he hc text more htake ih =>
    rw [htake] at ih
    exact .other (by simpa using hc) (by simpa using he) ih

/-! ### Comments -/

lemma takeLine_eq {text rest : List Char} (ht : '\n' ∉ text) (h : ∀ c ∈ rest.head?, c = '\n') :
    takeLine (text ++ rest) = (text, rest) := by
  have hall : ∀ c ∈ text, decide (c ≠ '\n') = true := by
    intro c hc
    have hne : c ≠ '\n' := fun hn => ht (hn ▸ hc)
    simpa using hne
  rw [takeLine, List.takeWhile_append_of_pos hall, List.dropWhile_append_of_pos hall]
  cases rest with
  | nil => simp
  | cons c rest =>
    have hc : c = '\n' := h c rfl
    simp [hc]

lemma notMem_takeLine (cs : List Char) : '\n' ∉ (takeLine cs).1 := by
  intro h
  simpa using List.mem_takeWhile_imp h

lemma head?_takeLine (cs : List Char) : ∀ c ∈ (takeLine cs).2.head?, c = '\n' := by
  intro c hc
  have h := List.head?_dropWhile_not (· ≠ '\n') cs
  rw [takeLine, Option.mem_def] at hc
  rw [hc] at h
  simpa using h

/-- A text in which no comment ends is no comment's end. -/
lemma not_end_of_infix {c : Char} {text : List Char} (h : ¬ ['*', '/'] <:+: c :: text)
    (rest : List Char) (hrest : rest.head? ≠ some '/') :
    ¬ (c = '*' ∧ (text ++ rest).head? = some '/') := by
  rintro ⟨rfl, hhead⟩
  cases text with
  | nil => exact hrest hhead
  | cons e text =>
    obtain rfl : e = '/' := by simpa using hhead
    exact h ⟨[], text, rfl⟩

lemma takeComment_cons {c : Char} {cs : List Char} (h : ¬ (c = '*' ∧ cs.head? = some '/')) :
    takeComment (c :: cs) = (c :: (takeComment cs).1, (takeComment cs).2) := by
  cases cs with
  | nil => rfl
  | cons e rest =>
    have hend : (c == '*' && e == '/') = false := by simpa using h
    simp [takeComment, hend]

lemma takeComment_closed {text : List Char} (h : ¬ ['*', '/'] <:+: text) (rest : List Char) :
    takeComment (text ++ '*' :: '/' :: rest) = (text ++ ['*', '/'], rest) := by
  induction text with
  | nil => simp [takeComment]
  | cons c text ih =>
    have hcons := not_end_of_infix h ('*' :: '/' :: rest) (by simp)
    rw [List.cons_append, takeComment_cons hcons, ih fun hi => h (List.infix_cons hi)]
    rfl

lemma takeComment_unclosed {text : List Char} (h : ¬ ['*', '/'] <:+: text) :
    takeComment text = (text, []) := by
  induction text with
  | nil => rfl
  | cons c text ih =>
    have hcons := not_end_of_infix h [] (by simp)
    rw [List.append_nil] at hcons
    rw [takeComment_cons hcons, ih fun hi => h (List.infix_cons hi)]

/-- The first end of a comment. -/
lemma exists_first_end {cs : List Char} (h : ['*', '/'] <:+: cs) :
    ∃ text rest, ¬ ['*', '/'] <:+: text ∧ cs = text ++ '*' :: '/' :: rest := by
  induction cs with
  | nil => simp at h
  | cons c cs ih =>
    by_cases hc : ['*', '/'] <+: c :: cs
    · obtain ⟨rest, hrest⟩ := hc
      exact ⟨[], rest, by simp, hrest.symm⟩
    · have hcs : ['*', '/'] <:+: cs := (List.infix_cons_iff.mp h).resolve_left hc
      obtain ⟨text, rest, htext, rfl⟩ := ih hcs
      refine ⟨c :: text, rest, fun hi => ?_, rfl⟩
      rcases List.infix_cons_iff.mp hi with hstart | hinfix
      · exact hc (hstart.trans ⟨'*' :: '/' :: rest, rfl⟩)
      · exact htext hinfix

/-! ### Names -/

lemma dropEndWhile_eq {name dots : List Char} (hlast : name.getLast? ≠ some '.')
    (hdots : ∀ c ∈ dots, c = '.') : Text.dropEndWhile (· == '.') (name ++ dots) = name := by
  change List.rdropWhile (· == '.') (name ++ dots) = name
  induction dots using List.reverseRecOn with
  | nil =>
    rw [List.append_nil, List.rdropWhile_eq_self_iff]
    intro hne hdot
    exact hlast (by rw [List.getLast?_eq_getLast_of_ne_nil hne, eq_of_beq hdot])
  | append_singleton dots c ih =>
    obtain rfl : c = '.' := hdots c (by simp)
    rw [← List.append_assoc, List.rdropWhile_concat_pos _ _ _ rfl]
    exact ih fun e he => hdots e (by simp [he])

lemma isNameChar_of_startsName {c : Char} (h : startsName c = true) : isNameChar c = true := by
  simp only [startsName, Bool.or_eq_true] at h
  simp only [isNameChar, Bool.or_eq_true]
  refine .inl (h.imp_left fun hletter => ?_)
  unfold Text.isLetter at hletter
  unfold Text.isAlphanumeric
  split at hletter
  · next hascii => simp [hascii, Text.isAsciiAlphanumeric, hletter]
  · next hascii => simp [hascii, hletter]

lemma takeName_eq {name dots rest : List Char} (hname : ∀ c ∈ name, isNameChar c = true)
    (hlast : name.getLast? ≠ some '.') (hdots : ∀ c ∈ dots, c = '.')
    (h : ∀ c ∈ rest.head?, isNameChar c = false) :
    takeName (name ++ (dots ++ rest)) = (name, dots ++ rest) := by
  have hall : ∀ c ∈ name ++ dots, isNameChar c = true := by
    intro c hc
    rcases List.mem_append.mp hc with hc | hc
    · exact hname c hc
    · rw [hdots c hc]
      decide
  have hrest : rest.takeWhile isNameChar = [] := by
    cases rest with
    | nil => rfl
    | cons c rest => exact List.takeWhile_cons_of_neg (by simp [h c rfl])
  have hrun : (name ++ (dots ++ rest)).takeWhile isNameChar = name ++ dots := by
    rw [← List.append_assoc, List.takeWhile_append_of_pos hall, hrest, List.append_nil]
  simp only [takeName, hrun, dropEndWhile_eq hlast hdots, List.drop_left]

/-- A scanned name has name characters, and only dots between it and the next other character. -/
lemma takeName_spec (cs : List Char) :
    (∀ c ∈ (takeName cs).1, isNameChar c = true) ∧ (takeName cs).1.getLast? ≠ some '.' ∧
      ∃ dots rest, (takeName cs).2 = dots ++ rest ∧ (∀ c ∈ dots, c = '.') ∧
        ∀ c ∈ rest.head?, isNameChar c = false := by
  let run := cs.takeWhile isNameChar
  let name := run.rdropWhile (· == '.')
  have hname : (takeName cs).1 = name := rfl
  have hrun : name ++ run.rtakeWhile (· == '.') = run := List.rdropWhile_append_rtakeWhile
  refine ⟨?_, ?_, run.rtakeWhile (· == '.'), cs.dropWhile isNameChar, ?_, ?_, ?_⟩
  · intro c hc
    have hmem : c ∈ run := by
      rw [← hrun]
      exact List.mem_append_left _ hc
    exact List.mem_takeWhile_imp hmem
  · intro hdot
    have hne : name ≠ [] := by
      rintro hnil
      simp [hname, hnil] at hdot
    have hlast := List.rdropWhile_last_not (· == '.') run hne
    rw [hname, List.getLast?_eq_getLast_of_ne_nil hne] at hdot
    exact hlast (by simpa using hdot)
  · have hcs : name ++ (run.rtakeWhile (· == '.') ++ cs.dropWhile isNameChar) = cs := by
      rw [← List.append_assoc, hrun, List.takeWhile_append_dropWhile]
    have happend := (append_takeName cs).trans hcs.symm
    rw [hname] at happend
    exact List.append_cancel_left happend
  · intro c hc
    simpa using List.mem_rtakeWhile_imp hc
  · intro c hc
    have h := List.head?_dropWhile_not isNameChar cs
    rw [Option.mem_def] at hc
    rw [hc] at h
    exact h

/-! ### Exchanged rests -/

lemma Quoted.of_head? {escapes : Bool} {quote : Char} {text rest rest' : List Char}
    (h : Quoted escapes quote text rest) (hne : rest ≠ [])
    (hhead : rest.head? ≠ some quote → rest'.head? ≠ some quote) :
    Quoted escapes quote text rest' := by
  induction h with
  | unclosed => exact absurd rfl hne
  | closed h => exact .closed (hhead h)
  | doubled _ ih => exact .doubled (ih hne hhead)
  | escaped he c _ ih => exact .escaped he c (ih hne hhead)
  | unpaired => exact absurd rfl hne
  | other hc he _ ih => exact .other hc he (ih hne hhead)

/-- Whether text without markers can be read depends on the next character alone. -/
lemma Reads.of_head? {d : Dialect} {text rest rest' : List Char} (h : Reads d (.verbatim text) rest)
    (hne : rest ≠ []) (hhead : rest'.head? = rest.head?) : Reads d (.verbatim text) rest' := by
  cases h with
  | quoted hq h => exact .quoted hq (h.of_head? hne fun hquote => by rwa [hhead])
  | line opening ho ht h => exact .line opening ho ht (by rwa [hhead])
  | block h => exact .block h rest'
  | unclosedBlock => exact absurd rfl hne
  | colons => exact .colons rest'
  | single h => exact .single (by rwa [IsOpening, hhead])

/-- In place of a colon that no text in front of it takes in, a character may stand that neither
closes nor opens anything behind another one. -/
lemma Reads.of_colon {d : Dialect} {text rest rest' : List Char} {c : Char}
    (h : Reads d (.verbatim text) (':' :: rest)) (hquote : ¬ IsQuote c) (hdash : c ≠ '-')
    (hstar : c ≠ '*') : Reads d (.verbatim text) (c :: rest') := by
  cases h with
  | @quoted q hq text _ h =>
    refine .quoted hq (h.of_head? (List.cons_ne_nil _ _) fun _ hc => hquote ?_)
    obtain rfl : c = q := by simpa using hc
    exact hq
  | line opening ho ht h => exact absurd (h ':' rfl) (by decide)
  | block h => exact .block h _
  | colons => exact .colons _
  | @single e _ h =>
    refine .single ?_
    rintro (hq | hline | ⟨-, hhead⟩ | ⟨-, hhead⟩ | ⟨rfl, -⟩)
    · exact h (.inl hq)
    · exact h (.inr (.inl hline))
    · exact hdash (by simpa using hhead)
    · exact hstar (by simpa using hhead)
    · exact h (.inr (.inr (.inr (.inr ⟨rfl, ':', rfl, .inl rfl⟩))))

/-! ### The scan -/

lemma reads_takeName (d : Dialect) {n : Char} (hn : startsName n = true) (cs : List Char) :
    Reads d (.marker (takeName (n :: cs)).1) (takeName (n :: cs)).2 := by
  obtain ⟨hname, hlast, dots, rest, hrest, hdots, hhead⟩ := takeName_spec (n :: cs)
  have happend := append_takeName (n :: cs)
  rw [hrest] at happend ⊢
  cases htake : (takeName (n :: cs)).1 with
  | nil =>
    exfalso
    rw [htake, List.nil_append] at happend
    cases dots with
    | nil =>
      have hchar := hhead n (by simp [show rest = n :: cs from happend])
      simp [isNameChar_of_startsName hn] at hchar
    | cons c dots =>
      obtain rfl : c = n := (List.cons.inj happend).1
      rw [hdots c List.mem_cons_self] at hn
      exact absurd hn (by decide)
  | cons c name =>
    rw [htake] at hname hlast happend
    obtain rfl : c = n := (List.cons.inj happend).1
    exact .marker hn (fun e he => hname e (List.mem_cons_of_mem c he)) hlast hdots hhead

lemma region_eq {d : Dialect} {r : Region} {rest : List Char} (h : Reads d r rest) {c : Char}
    {cs : List Char} (hc : r.source ++ rest = c :: cs) : region d c cs = (r, rest) := by
  cases h with
  | @quoted q hq text _ h =>
    obtain ⟨rfl, rfl⟩ : q = c ∧ text ++ rest = cs := by simpa [Region.source] using hc
    have hquote : q ≠ '\\' := by rcases hq with rfl | rfl | rfl <;> decide
    have htake := h.takeQuoted_eq hquote
    rcases hq with rfl | rfl | rfl <;> simp [region, htake]
  | @line opening ho text _ ht h =>
    have htake := takeLine_eq ht h
    rcases ho with rfl | ⟨rfl, rfl⟩
    · obtain ⟨rfl, rfl⟩ : '-' = c ∧ '-' :: (text ++ rest) = cs := by simpa [Region.source] using hc
      simp [region, htake]
    · obtain ⟨rfl, rfl⟩ : '#' = c ∧ text ++ rest = cs := by simpa [Region.source] using hc
      simp [region, htake]
  | @block text h _ =>
    obtain ⟨rfl, rfl⟩ : '/' = c ∧ '*' :: (text ++ '*' :: '/' :: rest) = cs := by
      simpa [Region.source] using hc
    simp [region, takeComment_closed h]
  | @unclosedBlock text h =>
    obtain ⟨rfl, rfl⟩ : '/' = c ∧ '*' :: text = cs := by simpa [Region.source] using hc
    simp [region, takeComment_unclosed h]
  | colons =>
    obtain ⟨rfl, rfl⟩ : ':' = c ∧ ':' :: rest = cs := by simpa [Region.source] using hc
    simp [region]
  | @marker n name dots rest hn hname hlast hdots h =>
    obtain ⟨rfl, rfl⟩ : ':' = c ∧ n :: (name ++ (dots ++ rest)) = cs := by
      simpa [Region.source] using hc
    have hcolon : n ≠ ':' := by
      rintro rfl
      exact absurd hn (by decide)
    have htake : takeName (n :: (name ++ (dots ++ rest))) = (n :: name, dots ++ rest) := by
      refine @takeName_eq (n :: name) dots rest ?_ hlast hdots h
      intro c hc
      rcases List.mem_cons.mp hc with rfl | hc
      · exact isNameChar_of_startsName hn
      · exact hname c hc
    simp [region, hn, htake]
  | @single e _ h =>
    obtain ⟨rfl, rfl⟩ : e = c ∧ rest = cs := by simpa [Region.source] using hc
    unfold region
    split
    · exact absurd (.inr (.inr (.inl ⟨rfl, rfl⟩))) h
    · exact absurd (.inr (.inr (.inr (.inl ⟨rfl, rfl⟩)))) h
    · exact absurd (.inr (.inr (.inr (.inr ⟨rfl, ':', rfl, .inl rfl⟩)))) h
    · next n rest _ =>
      split
      · next hn => exact absurd (.inr (.inr (.inr (.inr ⟨rfl, n, rfl, .inr hn⟩)))) h
      · rfl
    · split
      · next hq => exact absurd (.inl (by simpa [IsQuote, or_assoc] using hq)) h
      · split
        · next hline => exact absurd (.inr (.inl (by simpa [and_comm] using hline))) h
        · rfl

/-- The region that the scan takes can be read in front of what the scan leaves. -/
lemma reads_region (d : Dialect) (c : Char) (cs : List Char) :
    Reads d (region d c cs).1 (region d c cs).2 := by
  unfold region
  split
  · next rest =>
    exact .line ['-', '-'] (.inl rfl) (notMem_takeLine rest) (head?_takeLine rest)
  · next rest =>
    by_cases h : ['*', '/'] <:+: rest
    · obtain ⟨text, more, htext, rfl⟩ := exists_first_end h
      rw [takeComment_closed htext]
      exact .block htext more
    · rw [takeComment_unclosed h]
      exact .unclosedBlock h
  · next rest => exact .colons rest
  · next n rest hcolons =>
    split
    · next hn => exact reads_takeName d hn rest
    · next hn =>
      refine .single ?_
      rintro (hq | ⟨-, hc⟩ | ⟨hc, -⟩ | ⟨hc, -⟩ | ⟨-, m, hm, hm'⟩)
      · rcases hq with hq | hq | hq <;> exact absurd hq (by decide)
      · exact absurd hc (by decide)
      · exact absurd hc (by decide)
      · exact absurd hc (by decide)
      · obtain rfl : n = m := by simpa using hm
        exact hm'.elim hcolons hn
  · next hdash hslash hcolons hcolon =>
    split
    · next hq =>
      exact .quoted (by simpa [IsQuote, or_assoc] using hq)
        (quoted_takeQuoted (hasEscapes d c) c cs)
    · next hq =>
      split
      · next hline =>
        obtain ⟨rfl, hd⟩ : c = '#' ∧ d = .mysql := by simpa using hline
        exact .line ['#'] (.inr ⟨hd, rfl⟩) (notMem_takeLine cs) (head?_takeLine cs)
      · next hline =>
        refine .single ?_
        rintro (hq' | ⟨hd, hc⟩ | ⟨hc, hhead⟩ | ⟨hc, hhead⟩ | ⟨hc, n, hhead, -⟩)
        · exact hq (by simpa [IsQuote, or_assoc] using hq')
        · exact hline (by simp [hd, hc])
        · obtain ⟨rest, hcs⟩ := List.head?_eq_some_iff.mp hhead
          exact hdash rest hc hcs
        · obtain ⟨rest, hcs⟩ := List.head?_eq_some_iff.mp hhead
          exact hslash rest hc hcs
        · obtain ⟨rest, hcs⟩ := List.head?_eq_some_iff.mp hhead
          exact hcolon n rest hc hcs

lemma Reads.source_ne_nil {d : Dialect} {r : Region} {rest : List Char} (h : Reads d r rest) :
    r.source ≠ [] := by
  cases h with
  | line opening ho => rcases ho with rfl | ⟨-, rfl⟩ <;> simp [Region.source]
  | _ => simp [Region.source]

lemma isCut_regions (d : Dialect) (cs : List Char) : IsCut d (regions d cs) cs := by
  fun_induction regions d cs with
  | case1 => exact .nil
  | case2 c cs ih =>
    have hcut := IsCut.cons (reads_region d c cs) ih
    rwa [source_append_region] at hcut

/-- A text has one cut only, which is the one the scan makes. -/
theorem isCut_iff (d : Dialect) (rs : List Region) (cs : List Char) :
    IsCut d rs cs ↔ rs = regions d cs := by
  constructor
  · intro h
    induction h with
    | nil => rw [regions]
    | @cons r rs rest h _ ih =>
      have hne : r.source ++ rest ≠ [] := by simp [h.source_ne_nil]
      obtain ⟨c, cs, hc⟩ := List.exists_cons_of_ne_nil hne
      rw [hc, regions, region_eq h hc, ih]
  · rintro rfl
    exact isCut_regions d cs

end QueryLoom.Binding

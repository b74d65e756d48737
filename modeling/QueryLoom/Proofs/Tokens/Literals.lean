import Mathlib.Data.List.TakeWhile
import QueryLoom.SqlToken.Lexer

/-!
# What stands inside literals

Runs of characters, quoted texts, comments, texts between dollar signs and decoded strings, each
described by itself: the readers take exactly these, whatever follows them, as long as it does not
carry them on.
-/

namespace QueryLoom.SqlToken

/-! ### Runs of characters -/

/-- A character of a class is none of the characters outside it. -/
lemma notMem_of_class {p : Char → Bool} {chars : List Char} (hp : chars.any p = false)
    {c : Char} (hc : p c = true) : c ∉ chars := by
  intro hmem
  rw [List.any_eq_true.mpr ⟨c, hmem, hc⟩] at hp
  cases hp

/-- The next character, if there is one, is outside the class `p`. -/
def Stops (p : Char → Bool) (rest : List Char) : Prop := ∀ c ∈ rest.head?, p c = false

@[simp] lemma stops_nil (p : Char → Bool) : Stops p [] := by simp [Stops]

@[simp] lemma stops_cons {p : Char → Bool} {c : Char} {rest : List Char} :
    Stops p (c :: rest) ↔ p c = false := by simp [Stops]

lemma stops_dropWhile (p : Char → Bool) (cs : List Char) : Stops p (cs.dropWhile p) := by
  intro c hc
  have h := List.head?_dropWhile_not p cs
  rw [Option.mem_def] at hc
  rwa [hc] at h

lemma takeWhile_run {p : Char → Bool} {run rest : List Char} (h : ∀ c ∈ run, p c = true)
    (hrest : Stops p rest) : (run ++ rest).takeWhile p = run := by
  rw [List.takeWhile_append_of_pos h]
  cases rest with
  | nil => simp
  | cons c rest => simp [List.takeWhile_cons_of_neg (by simpa using stops_cons.mp hrest)]

lemma dropWhile_run {p : Char → Bool} {run rest : List Char} (h : ∀ c ∈ run, p c = true)
    (hrest : Stops p rest) : (run ++ rest).dropWhile p = rest := by
  rw [List.dropWhile_append_of_pos h]
  cases rest with
  | nil => rfl
  | cons c rest => rw [List.dropWhile_cons_of_neg (by simpa using stops_cons.mp hrest)]

lemma stops_of_takeWhile {p : Char → Bool} {cs : List Char} (h : cs.takeWhile p = []) :
    Stops p cs := by
  cases cs with
  | nil => exact stops_nil p
  | cons c cs => simpa using h

lemma takeWhile_of_stops {p : Char → Bool} {cs : List Char} (h : Stops p cs) :
    cs.takeWhile p = [] := by
  have hnone : ∀ c ∈ ([] : List Char), p c = true := by simp
  simpa using takeWhile_run hnone h

/-- A run goes as far as its class. -/
lemma span_eq_iff {p : Char → Bool} {cs run rest : List Char} :
    (cs.takeWhile p = run ∧ cs.dropWhile p = rest) ↔
      cs = run ++ rest ∧ (∀ c ∈ run, p c = true) ∧ Stops p rest := by
  constructor
  · rintro ⟨rfl, rfl⟩
    exact ⟨List.takeWhile_append_dropWhile.symm, fun _ => List.mem_takeWhile_imp,
      stops_dropWhile p cs⟩
  · rintro ⟨rfl, hrun, hrest⟩
    exact ⟨takeWhile_run hrun hrest, dropWhile_run hrun hrest⟩

/-! ### Quotes -/

/-- A text as it stands between quotes: a quote is doubled, or with escapes comes after a
backslash. -/
inductive Inside (escapes : Bool) (quote : Char) : List Char → Prop where
  | nil : Inside escapes quote []
  | doubled {text : List Char} (h : Inside escapes quote text) :
      Inside escapes quote (quote :: quote :: text)
  | escaped (he : escapes = true) (c : Char) {text : List Char} (h : Inside escapes quote text) :
      Inside escapes quote ('\\' :: c :: text)
  | other {c : Char} (hc : c ≠ quote) (he : ¬ (escapes = true ∧ c = '\\')) {text : List Char}
      (h : Inside escapes quote text) : Inside escapes quote (c :: text)

lemma readQuoted?_other {escapes : Bool} {quote c : Char} (hc : c ≠ quote)
    (he : ¬ (escapes = true ∧ c = '\\')) (cs : List Char) :
    readQuoted? escapes quote (c :: cs)
      = (readQuoted? escapes quote cs).map fun (text, rest) => (c :: text, rest) := by
  cases cs with
  | nil => simp [readQuoted?, hc]
  | cons e rest => simp [readQuoted?, hc, he]

lemma Inside.readQuoted?_eq {escapes : Bool} {quote : Char} (hquote : quote ≠ '\\')
    {text rest : List Char} (h : Inside escapes quote text) (hrest : rest.head? ≠ some quote) :
    readQuoted? escapes quote (text ++ quote :: rest) = some (text, rest) := by
  induction h with
  | nil =>
    cases rest with
    | nil => simp [readQuoted?]
    | cons c rest =>
      have hc : c ≠ quote := by simpa using hrest
      simp [readQuoted?, hc]
  | doubled _ ih => simp [readQuoted?, ih]
  | escaped he c _ ih =>
    subst he
    simp [readQuoted?, hquote.symm, ih]
  | other hc he _ ih => rw [List.cons_append, readQuoted?_other hc he, ih, Option.map_some]

/-- Reading stops at the quote that stands alone. -/
lemma inside_of_readQuoted? {escapes : Bool} {quote : Char} {cs text rest : List Char}
    (h : readQuoted? escapes quote cs = some (text, rest)) :
    Inside escapes quote text ∧ rest.head? ≠ some quote ∧ cs = text ++ quote :: rest := by
  fun_induction readQuoted? escapes quote cs generalizing text rest with
  | case1 => cases h
  | case2 c hc =>
    cases h
    exact ⟨.nil, by simp, by rw [eq_of_beq hc]; rfl⟩
  | case3 => cases h
  | case4 c e more hc he ih =>
    obtain ⟨⟨text', rest'⟩, hread, hpair⟩ := Option.map_eq_some_iff.mp h
    cases hpair
    obtain ⟨hinside, hhead, rfl⟩ := ih hread
    rw [eq_of_beq hc, eq_of_beq he]
    exact ⟨.doubled hinside, hhead, rfl⟩
  | case5 c e more hc he =>
    cases h
    exact ⟨.nil, by simpa using he, by rw [eq_of_beq hc]; rfl⟩
  | case6 c e more hc he ih =>
    obtain ⟨⟨text', rest'⟩, hread, hpair⟩ := Option.map_eq_some_iff.mp h
    cases hpair
    obtain ⟨hescapes, hc⟩ : escapes = true ∧ c = '\\' := by simpa using he
    subst hescapes hc
    obtain ⟨hinside, hhead, rfl⟩ := ih hread
    exact ⟨.escaped rfl e hinside, hhead, rfl⟩
  | case7 c e more hc he ih =>
    obtain ⟨⟨text', rest'⟩, hread, hpair⟩ := Option.map_eq_some_iff.mp h
    cases hpair
    obtain ⟨hinside, hhead, hcs⟩ := ih hread
    exact ⟨.other (by simpa using hc) (by simpa using he) hinside, hhead, by rw [hcs]; rfl⟩

/-! ### Comments -/

/-- The body of a line comment has the end of the line only at its end, if at all. -/
lemma readLine_ended {ends : Char → Bool} {body : List Char} {e : Char}
    (h : ∀ c ∈ body, ends c = false) (he : ends e = true) (rest : List Char) :
    readLine ends (body ++ e :: rest) = (body ++ [e], rest) := by
  induction body with
  | nil => simp [readLine, he]
  | cons c body ih =>
    obtain ⟨hc, hbody⟩ := List.forall_mem_cons.mp h
    simp [readLine, hc, ih hbody]

lemma readLine_last {ends : Char → Bool} {body : List Char} (h : ∀ c ∈ body, ends c = false) :
    readLine ends body = (body, []) := by
  induction body with
  | nil => rfl
  | cons c body ih =>
    obtain ⟨hc, hbody⟩ := List.forall_mem_cons.mp h
    simp [readLine, hc, ih hbody]

lemma readLine_spec (ends : Char → Bool) (cs : List Char) :
    (∀ c ∈ cs, ends c = false) ∨
      ∃ body e rest, (∀ c ∈ body, ends c = false) ∧ ends e = true ∧ cs = body ++ e :: rest := by
  induction cs with
  | nil => simp
  | cons c cs ih =>
    by_cases hc : ends c = true
    · exact .inr ⟨[], c, cs, by simp, hc, rfl⟩
    · have hc : ends c = false := by simpa using hc
      rcases ih with hall | ⟨body, e, rest, hbody, he, rfl⟩
      · exact .inl (List.forall_mem_cons.mpr ⟨hc, hall⟩)
      · exact .inr ⟨c :: body, e, rest, List.forall_mem_cons.mpr ⟨hc, hbody⟩, he, rfl⟩

/-- What a block comment is depends on its characters alone, and the last of them is a star. -/
lemma readBlock?_spec {depth : Nat} {last : Char} {cs body rest : List Char}
    (h : readBlock? depth last cs = some (body, rest)) :
    cs = body ++ '/' :: rest ∧ (last :: body).getLast? = some '*' ∧
      ∀ rest', readBlock? depth last (body ++ '/' :: rest') = some (body, rest') := by
  fun_induction readBlock? depth last cs generalizing body rest with
  | case1 => cases h
  | case2 depth last c more hopen ih =>
    obtain ⟨⟨body', rest'⟩, hread, hpair⟩ := Option.map_eq_some_iff.mp h
    cases hpair
    obtain ⟨rfl, hlast, hany⟩ := ih hread
    refine ⟨rfl, by simpa using hlast, fun rest'' => ?_⟩
    simp only [List.cons_append, readBlock?, hopen, hany, if_true, Option.map_some]
  | case3 last c more hopen hclose =>
    cases h
    obtain ⟨rfl, rfl⟩ : last = '*' ∧ c = '/' := by simpa using hclose
    exact ⟨rfl, rfl, fun rest' => by simp [readBlock?]⟩
  | case4 last c more hopen hclose depth ih =>
    obtain ⟨⟨body', rest'⟩, hread, hpair⟩ := Option.map_eq_some_iff.mp h
    cases hpair
    obtain ⟨rfl, hlast, hany⟩ := ih hread
    refine ⟨rfl, by simpa using hlast, fun rest'' => ?_⟩
    simp only [List.cons_append, readBlock?, hopen, hclose, hany, if_true, Option.map_some,
      Bool.false_eq_true, if_false]
  | case5 depth last c more hopen hclose ih =>
    obtain ⟨⟨body', rest'⟩, hread, hpair⟩ := Option.map_eq_some_iff.mp h
    cases hpair
    obtain ⟨rfl, hlast, hany⟩ := ih hread
    refine ⟨rfl, by simpa using hlast, fun rest'' => ?_⟩
    simp only [List.cons_append, readBlock?, hopen, hclose, hany, Option.map_some,
      Bool.false_eq_true, if_false]

/-! ### Text up to a piece -/

@[simp] lemma stripLead?_append (lead rest : List Char) :
    Text.stripLead? lead (lead ++ rest) = some rest := by
  induction lead with
  | nil => rfl
  | cons c lead ih => simp [Text.stripLead?, ih]

lemma eq_append_of_stripLead? {lead cs rest : List Char}
    (h : Text.stripLead? lead cs = some rest) : cs = lead ++ rest := by
  fun_induction Text.stripLead? lead cs with
  | case1 cs => exact Option.some.inj h
  | case2 => cases h
  | case3 l lead c cs hc ih => rw [eq_of_beq hc, ih h, List.cons_append]
  | case4 => cases h

/-- Whether a text begins with a piece shows in as many characters as the piece has. -/
lemma stripLead?_eq_none {lead front rest : List Char} (hlength : lead.length ≤ front.length)
    (h : Text.stripLead? lead (front ++ rest) = none) (rest' : List Char) :
    Text.stripLead? lead (front ++ rest') = none := by
  induction lead generalizing front with
  | nil => simp [Text.stripLead?] at h
  | cons l lead ih =>
    cases front with
    | nil => simp at hlength
    | cons c front =>
      simp only [List.cons_append, Text.stripLead?] at h ⊢
      split at h
      · next hc =>
        rw [if_pos hc]
        exact ih (by simpa using hlength) h
      · next hc => rw [if_neg hc]

lemma cutAt?_append (piece rest : List Char) :
    Text.cutAt? piece (piece ++ rest) = some ([], rest) := by
  cases hcs : piece ++ rest with
  | nil =>
    obtain ⟨rfl, rfl⟩ := List.append_eq_nil_iff.mp hcs
    rfl
  | cons c cs => rw [Text.cutAt?, ← hcs, stripLead?_append]

lemma hasPiece_append (piece front rest : List Char) :
    Text.hasPiece piece (front ++ (piece ++ rest)) = true := by
  induction front with
  | nil =>
    rw [List.nil_append, Text.hasPiece, cutAt?_append]
    rfl
  | cons c front ih =>
    rw [List.cons_append, Text.hasPiece, Text.cutAt?]
    cases Text.stripLead? piece (c :: (front ++ (piece ++ rest))) with
    | some more => rfl
    | none => simpa [Text.hasPiece] using ih

/-- Where a piece first occurs depends on the text up to its end alone. -/
lemma cutAt?_spec {piece cs text rest : List Char} (h : Text.cutAt? piece cs = some (text, rest)) :
    cs = text ++ (piece ++ rest) ∧
      ∀ rest', Text.cutAt? piece (text ++ (piece ++ rest')) = some (text, rest') := by
  fun_induction Text.cutAt? piece cs generalizing text rest with
  | case1 hpiece =>
    cases h
    obtain rfl := List.isEmpty_iff.mp hpiece
    exact ⟨rfl, cutAt?_append []⟩
  | case2 => cases h
  | case3 c cs more hstrip =>
    cases h
    have hcs := eq_append_of_stripLead? hstrip
    exact ⟨hcs, cutAt?_append piece⟩
  | case4 c cs hstrip ih =>
    obtain ⟨⟨text', rest'⟩, hcut, hpair⟩ := Option.map_eq_some_iff.mp h
    cases hpair
    obtain ⟨rfl, hany⟩ := ih hcut
    refine ⟨rfl, fun rest'' => ?_⟩
    have hnone : Text.stripLead? piece (c :: (text' ++ (piece ++ rest''))) = none := by
      have hfront : ∀ more, c :: (text' ++ (piece ++ more)) = (c :: text' ++ piece) ++ more := by
        simp
      rw [hfront] at hstrip ⊢
      exact stripLead?_eq_none (by simp; omega) hstrip rest''
    simp only [List.cons_append, Text.cutAt?, hnone, hany, Option.map_some]

/-! ### Decoded strings -/

/-- A text as it was written between quotes, and the text it stands for. After a backslash a
character stands for itself, or begins a code. -/
inductive Decoded : (raw text : List Char) → Prop where
  | nil : Decoded [] []
  | kept {c : Char} (hquote : c ≠ '\'') (hescape : c ≠ '\\') {raw text : List Char}
      (h : Decoded raw text) : Decoded (c :: raw) (c :: text)
  | doubled {raw text : List Char} (h : Decoded raw text) :
      Decoded ('\'' :: '\'' :: raw) ('\'' :: text)
  | escaped {c value : Char} (hc : value = c ∨ Text.isAsciiAlphanumeric c = true ∨ c = '+')
      (code : List Char) {raw text : List Char} (h : Decoded raw text) :
      Decoded ('\\' :: c :: (code ++ raw)) (value :: text)

lemma escapeValue?_spec {c value : Char} {rest : List Char} {used : Nat}
    (h : escapeValue? c rest = some (value, used)) :
    value = c ∨ Text.isAsciiAlphanumeric c = true := by
  unfold escapeValue? at h
  split at h
  all_goals try exact .inr (by decide)
  next e _ _ _ _ _ _ _ _ =>
  by_cases hoctal : isOctal c = true
  · refine .inr ?_
    simp only [isOctal, Bool.and_eq_true, decide_eq_true_eq] at hoctal
    have hnine : c ≤ '9' := Char.le_trans hoctal.2 (by decide)
    simp [Text.isAsciiAlphanumeric, Text.isAsciiDigit, hoctal.1, hnine]
  · rw [if_neg hoctal] at h
    refine .inl ?_
    obtain ⟨value', hvalue, hpair⟩ := Option.map_eq_some_iff.mp h
    cases hpair
    unfold charOfCode? at hvalue
    split at hvalue
    · cases hvalue
    · rw [← Option.some.inj hvalue, Char.ofNat_toNat]

lemma decoded_of_readEscaped? {cs text rest : List Char}
    (h : readEscaped? cs = some (text, rest)) :
    ∃ raw, cs = raw ++ '\'' :: rest ∧ rest.head? ≠ some '\'' ∧ Decoded raw text := by
  fun_induction readEscaped? cs generalizing text rest with
  | case1 => cases h
  | case2 more ih =>
    obtain ⟨⟨text', rest'⟩, hread, hpair⟩ := Option.map_eq_some_iff.mp h
    cases hpair
    obtain ⟨raw, rfl, hhead, hraw⟩ := ih hread
    exact ⟨'\'' :: '\'' :: raw, rfl, hhead, .doubled hraw⟩
  | case3 more hmore =>
    cases h
    refine ⟨[], rfl, ?_, .nil⟩
    intro hhead
    obtain ⟨more', hmore'⟩ := List.head?_eq_some_iff.mp hhead
    exact hmore more' hmore'
  | case4 => cases h
  | case5 c more value used hvalue ih =>
    obtain ⟨⟨text', rest'⟩, hread, hpair⟩ := Option.map_eq_some_iff.mp h
    cases hpair
    obtain ⟨raw, hdrop, hhead, hraw⟩ := ih hread
    have hmore : more = (more.take used ++ raw) ++ '\'' :: rest := by
      rw [List.append_assoc, ← hdrop, List.take_append_drop]
    refine ⟨'\\' :: c :: (more.take used ++ raw), ?_, hhead,
      .escaped ((escapeValue?_spec hvalue).imp_right .inl) _ hraw⟩
    rw [List.cons_append, List.cons_append, ← hmore]
  | case6 => cases h
  | case7 c more _ hquote hescape hlast ih =>
    obtain ⟨⟨text', rest'⟩, hread, hpair⟩ := Option.map_eq_some_iff.mp h
    cases hpair
    obtain ⟨raw, rfl, hhead, hraw⟩ := ih hread
    have hbackslash : c ≠ '\\' := fun hc => by
      cases raw with
      | nil => exact hescape _ _ hc rfl
      | cons e raw => exact hescape _ _ hc rfl
    exact ⟨c :: raw, rfl, hhead, .kept hquote hbackslash hraw⟩

/-- A text without quotes and backslashes stands for itself. -/
lemma readEscaped?_plain {text rest : List Char} (h : ∀ c ∈ text, c ≠ '\'' ∧ c ≠ '\\')
    (hrest : rest.head? ≠ some '\'') : readEscaped? (text ++ '\'' :: rest) = some (text, rest) := by
  induction text with
  | nil =>
    cases rest with
    | nil => simp [readEscaped?]
    | cons c rest =>
      have hc : c ≠ '\'' := by simpa using hrest
      simp [readEscaped?, hc]
  | cons c text ih =>
    obtain ⟨⟨hquote, hescape⟩, htext⟩ := List.forall_mem_cons.mp h
    simp [readEscaped?, hquote, hescape, ih htext]

lemma isAsciiAlphanumeric_of_isHex {c : Char} (h : isHex c = true) :
    Text.isAsciiAlphanumeric c = true := by
  unfold isHex Json.hexValue? at h
  simp only [Text.isAsciiAlphanumeric, Text.isAsciiLetter, Text.isAsciiDigit, Bool.or_eq_true,
    Bool.and_eq_true, decide_eq_true_eq] at h ⊢
  split at h
  · next hdigit => exact .inr hdigit
  · split at h
    · next hsmall => exact .inl (.inl ⟨hsmall.1, Char.le_trans hsmall.2 (by decide)⟩)
    · split at h
      · next hcapital => exact .inl (.inr ⟨hcapital.1, Char.le_trans hcapital.2 (by decide)⟩)
      · cases h

lemma readHexChar?_spec {count : Nat} {cs rest : List Char} {c : Char}
    (h : readHexChar? count cs = some (c, rest)) :
    ∃ digits, cs = digits ++ rest ∧ digits.length = count ∧ ∀ d ∈ digits, isHex d = true := by
  simp only [readHexChar?] at h
  split at h
  · cases h
  · next hdigits =>
    simp only [Bool.or_eq_true, decide_eq_true_eq, not_or, Nat.not_lt, Bool.not_eq_true',
      Bool.not_eq_false, List.all_eq_true] at hdigits
    split at h
    · cases h
    · cases h
      exact ⟨cs.take count, (List.take_append_drop count cs).symm,
        Nat.le_antisymm (List.length_take_le count cs) hdigits.1, hdigits.2⟩

lemma decoded_of_readNumbered? {cs text rest : List Char}
    (h : readNumbered? cs = some (text, rest)) :
    ∃ raw, cs = raw ++ '\'' :: rest ∧ rest.head? ≠ some '\'' ∧ Decoded raw text := by
  fun_induction readNumbered? cs generalizing text rest with
  | case1 => cases h
  | case2 more ih =>
    obtain ⟨⟨text', rest'⟩, hread, hpair⟩ := Option.map_eq_some_iff.mp h
    cases hpair
    obtain ⟨raw, rfl, hhead, hraw⟩ := ih hread
    exact ⟨'\'' :: '\'' :: raw, rfl, hhead, .doubled hraw⟩
  | case3 more hmore =>
    cases h
    refine ⟨[], rfl, ?_, .nil⟩
    intro hhead
    obtain ⟨more', hmore'⟩ := List.head?_eq_some_iff.mp hhead
    exact hmore more' hmore'
  | case4 more ih =>
    obtain ⟨⟨text', rest'⟩, hread, hpair⟩ := Option.map_eq_some_iff.mp h
    cases hpair
    obtain ⟨raw, rfl, hhead, hraw⟩ := ih hread
    exact ⟨'\\' :: '\\' :: raw, rfl, hhead, .escaped (.inl rfl) [] hraw⟩
  | case5 => cases h
  | case6 more value more' hread' _ ih =>
    obtain ⟨⟨text', rest'⟩, hread, hpair⟩ := Option.map_eq_some_iff.mp h
    cases hpair
    obtain ⟨raw, rfl, hhead, hraw⟩ := ih hread
    obtain ⟨digits, rfl, -, -⟩ := readHexChar?_spec hread'
    exact ⟨'\\' :: '+' :: (digits ++ raw), by simp, hhead, .escaped (.inr (.inr rfl)) digits hraw⟩
  | case7 => cases h
  | case8 more _ _ value more' hread' _ ih =>
    obtain ⟨⟨text', rest'⟩, hread, hpair⟩ := Option.map_eq_some_iff.mp h
    cases hpair
    obtain ⟨raw, rfl, hhead, hraw⟩ := ih hread
    obtain ⟨digits, rfl, hlength, hdigits⟩ := readHexChar?_spec hread'
    obtain ⟨first, digits, rfl⟩ := List.exists_cons_of_length_eq_add_one hlength
    have hfirst := isAsciiAlphanumeric_of_isHex (hdigits first List.mem_cons_self)
    exact ⟨'\\' :: first :: (digits ++ raw), by simp, hhead,
      .escaped (.inr (.inl hfirst)) digits hraw⟩
  | case9 c more _ hquote _ _ hescape ih =>
    obtain ⟨⟨text', rest'⟩, hread, hpair⟩ := Option.map_eq_some_iff.mp h
    cases hpair
    obtain ⟨raw, rfl, hhead, hraw⟩ := ih hread
    exact ⟨c :: raw, rfl, hhead, .kept hquote hescape hraw⟩

/-- The same text without numbered characters. -/
lemma readNumbered?_plain {text rest : List Char} (h : ∀ c ∈ text, c ≠ '\'' ∧ c ≠ '\\')
    (hrest : rest.head? ≠ some '\'') :
    readNumbered? (text ++ '\'' :: rest) = some (text, rest) := by
  induction text with
  | nil =>
    cases rest with
    | nil => simp [readNumbered?]
    | cons c rest =>
      have hc : c ≠ '\'' := by simpa using hrest
      simp [readNumbered?, hc]
  | cons c text ih =>
    obtain ⟨⟨hquote, hescape⟩, htext⟩ := List.forall_mem_cons.mp h
    simp [readNumbered?, hquote, hescape, ih htext]

/-! ### Numbers -/

/-- Digits with at most one point among them, which `rest` does not carry on. -/
inductive Decimal : (digits rest : List Char) → Prop where
  | whole {digits rest : List Char} (h : ∀ c ∈ digits, Text.isAsciiDigit c = true)
      (hrest : Stops (fun c => Text.isAsciiDigit c || c == '.') rest) : Decimal digits rest
  | point {whole fraction rest : List Char} (hwhole : ∀ c ∈ whole, Text.isAsciiDigit c = true)
      (hfraction : ∀ c ∈ fraction, Text.isAsciiDigit c = true)
      (hrest : Stops Text.isAsciiDigit rest) : Decimal (whole ++ '.' :: fraction) rest

lemma Decimal.readDigits_eq {digits rest : List Char} (h : Decimal digits rest) :
    readDigits (digits ++ rest) = (digits, rest) := by
  cases h with
  | whole h hrest =>
    have hdigit : Stops Text.isAsciiDigit rest := fun c hc => by
      have hboth := hrest c hc
      simp only [Bool.or_eq_false_iff] at hboth
      exact hboth.1
    simp only [readDigits, takeWhile_run h hdigit, dropWhile_run h hdigit]
    split
    · simp at hrest
    · rfl
  | @point whole fraction rest hwhole hfraction hrest =>
    have hpoint : Stops Text.isAsciiDigit ('.' :: (fraction ++ rest)) := by simp; decide
    simp only [readDigits, List.append_assoc, List.cons_append, takeWhile_run hwhole hpoint,
      dropWhile_run hwhole hpoint, takeWhile_run hfraction hrest, dropWhile_run hfraction hrest]

lemma decimal_readDigits (cs : List Char) :
    cs = (readDigits cs).1 ++ (readDigits cs).2 ∧ Decimal (readDigits cs).1 (readDigits cs).2 := by
  have hdigits : ∀ run : List Char, ∀ c ∈ run.takeWhile Text.isAsciiDigit,
      Text.isAsciiDigit c = true := fun _ _ => List.mem_takeWhile_imp
  have hcs := List.takeWhile_append_dropWhile (p := Text.isAsciiDigit) (l := cs)
  have hstop := stops_dropWhile Text.isAsciiDigit cs
  unfold readDigits
  split
  · next rest hrest =>
    rw [hrest] at hcs
    refine ⟨?_, .point (hdigits cs) (hdigits rest) (stops_dropWhile _ rest)⟩
    rw [List.append_assoc, List.cons_append, List.takeWhile_append_dropWhile, hcs]
  · next hpoint =>
    refine ⟨hcs.symm, .whole (hdigits cs) fun c hc => ?_⟩
    have hdot : c ≠ '.' := by
      rintro rfl
      obtain ⟨rest, hrest⟩ := List.head?_eq_some_iff.mp hc
      exact hpoint rest hrest
    simp [hstop c hc, hdot]

lemma Decimal.stops {digits rest : List Char} (h : Decimal digits rest) :
    Stops Text.isAsciiDigit rest := by
  cases h with
  | whole _ hrest =>
    intro c hc
    have hboth := hrest c hc
    simp only [Bool.or_eq_false_iff] at hboth
    exact hboth.1
  | point _ _ hrest => exact hrest

lemma Decimal.forall_mem {digits rest : List Char} (h : Decimal digits rest) :
    ∀ c ∈ digits, (Text.isAsciiDigit c || c == '.') = true := by
  intro c hc
  cases h with
  | whole h _ => simp [h c hc]
  | point hwhole hfraction _ =>
    rcases List.mem_append.mp hc with hc | hc
    · simp [hwhole c hc]
    · rcases List.mem_cons.mp hc with rfl | hc
      · simp
      · simp [hfraction c hc]

lemma Decimal.ne_nil {digits rest cs : List Char} {c : Char} (h : Decimal digits rest)
    (hcs : digits ++ rest = c :: cs) (hc : Text.isAsciiDigit c = true ∨ c = '.') : digits ≠ [] := by
  rintro rfl
  rw [List.nil_append] at hcs
  subst hcs
  generalize hdigits : ([] : List Char) = digits at h
  cases h with
  | whole _ hrest => rcases hc with hc | hc <;> simp [hc] at hrest
  | point => simp at hdigits

/-- The letter of an exponent, a sign or none, and digits. -/
def IsExponent (text : List Char) : Prop :=
  ∃ e sign digits, text = e :: (sign ++ digits) ∧ (e = 'e' ∨ e = 'E') ∧
    (sign = [] ∨ sign = ['+'] ∨ sign = ['-']) ∧ digits ≠ [] ∧
    ∀ c ∈ digits, Text.isAsciiDigit c = true

lemma exponent?_eq {text rest : List Char} (h : IsExponent text)
    (hrest : Stops Text.isAsciiDigit rest) : exponent? (text ++ rest) = some (text, rest) := by
  obtain ⟨e, sign, digits, rfl, he, hsign, hne, hdigits⟩ := h
  have hletter : (e == 'e' || e == 'E') = true := by simpa using he
  have htake := takeWhile_run hdigits hrest
  have hdrop := dropWhile_run hdigits hrest
  rcases hsign with rfl | rfl | rfl
  · obtain ⟨d, more, rfl⟩ := List.exists_cons_of_ne_nil hne
    have hd : d ≠ '+' ∧ d ≠ '-' := by
      constructor <;> rintro rfl <;> exact absurd (hdigits _ List.mem_cons_self) (by decide)
    rw [List.cons_append] at htake hdrop
    simp [exponent?, hletter, hd, htake, hdrop]
  all_goals simp [exponent?, hletter, htake, hdrop, hne]

lemma exponent?_spec {cs text rest : List Char} (h : exponent? cs = some (text, rest)) :
    cs = text ++ rest ∧ IsExponent text ∧ Stops Text.isAsciiDigit rest := by
  unfold exponent? at h
  split at h
  · next e more =>
    split at h
    · next he =>
      have hsigned : ∀ sign digits, (sign = [] ∨ sign = ['+'] ∨ sign = ['-']) →
          more = sign ++ digits →
          (if (digits.takeWhile Text.isAsciiDigit).isEmpty then none
            else some (e :: sign ++ digits.takeWhile Text.isAsciiDigit,
              digits.dropWhile Text.isAsciiDigit)) = some (text, rest) →
          e :: more = text ++ rest ∧ IsExponent text ∧ Stops Text.isAsciiDigit rest := by
        intro sign digits hsign hmore hif
        split at hif
        · cases hif
        · next hne =>
          cases hif
          refine ⟨?_, ⟨e, sign, _, rfl, by simpa using he, hsign, by simpa using hne,
            fun _ => List.mem_takeWhile_imp⟩, stops_dropWhile _ _⟩
          rw [List.append_assoc, List.takeWhile_append_dropWhile, hmore]
          rfl
      rcases more with _ | ⟨s, more⟩
      · exact hsigned [] [] (.inl rfl) rfl h
      · by_cases hplus : s = '+'
        · subst hplus
          exact hsigned ['+'] more (.inr (.inl rfl)) rfl h
        · by_cases hminus : s = '-'
          · subst hminus
            exact hsigned ['-'] more (.inr (.inr rfl)) rfl h
          · exact hsigned [] (s :: more) (.inl rfl) rfl (by simpa [hplus, hminus] using h)
    · cases h
  · cases h

/-- An exponent goes as far as its digits. -/
lemma exponent?_eq_some_iff {cs text rest : List Char} :
    exponent? cs = some (text, rest) ↔
      cs = text ++ rest ∧ IsExponent text ∧ Stops Text.isAsciiDigit rest := by
  constructor
  · exact exponent?_spec
  · rintro ⟨rfl, h, hrest⟩
    exact exponent?_eq h hrest

lemma exponent?_eq_none {cs : List Char} (h : startsExponent cs = false) : exponent? cs = none := by
  unfold exponent?
  split
  · next e rest =>
    rw [if_neg]
    intro he
    obtain rfl | rfl : e = 'e' ∨ e = 'E' := by simpa using he
    all_goals simp [startsExponent] at h
  · rfl

end QueryLoom.SqlToken

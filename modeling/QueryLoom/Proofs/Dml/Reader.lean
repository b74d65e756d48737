import Mathlib.Data.List.Infix
import QueryLoom.Proofs.Content

/-!
# Reading finished statements

A statement is read from left to right: keywords as they stand, identifiers, and placeholders, each
of which gives the value it refers to. A question mark refers to the next value, a numbered
placeholder to the value of its number.
-/

namespace QueryLoom.Dml

/-! ### Readers -/

/-- A place in a statement: the text from there on, and how many placeholders stand before. -/
structure Cursor where
  text : List Char
  passed : Nat

/-- What the text of a statement is read against. -/
structure Source where
  dialect : Dialect
  params : List Json

/-- Reads something at a place, or fails. -/
abbrev Reader := ReaderT Source (StateT Cursor Option)

/-- Read a text as it stands. -/
def exactly (s : String) : Reader Unit := fun _ c =>
  if s.toList.isPrefixOf c.text then some ((), { c with text := c.text.drop s.toList.length })
  else none

/-- Whether a text stands next. -/
def ahead (s : String) : Reader Bool := fun _ c => some (s.toList.isPrefixOf c.text, c)

/-- Go on as the first of some texts says that stands next, or else as `other` says. -/
def choose {α : Type} : List (String × Reader α) → (other : Reader α) → Reader α
  | [], other => other
  | (s, r) :: options, other => do
    if ← ahead s then
      exactly s
      r
    else choose options other

/-- Read one part of an identifier. -/
def part : Reader IdentPart := fun src c =>
  match c.text with
  | [] => none
  | x :: xs =>
    if x = src.dialect.identQuote then
      (Text.readEnclosed? x xs).map fun (name, rest) =>
        (.quoted (String.ofList name), { c with text := rest })
    else if Ident.isPlainStart x then
      some (.plain (String.ofList (x :: xs.takeWhile Ident.isPlainChar)),
        { c with text := xs.dropWhile Ident.isPlainChar })
    else none

/-- The value that the placeholder at the start of a text refers to, and the text after it. -/
def referred? (src : Source) (passed : Nat) (text : List Char) : Option (Json × List Char) :=
  match src.dialect, text with
  | .postgres, '$' :: rest => do
    let digits := rest.takeWhile Char.isDigit
    let value ← src.params[Nat.ofDigitChars 10 digits 0 - 1]?
    return (value, rest.dropWhile Char.isDigit)
  | .mysql, '?' :: rest | .sqlite, '?' :: rest => do
    let value ← src.params[passed]?
    return (value, rest)
  | _, _ => none

/-- Read a placeholder as the value it refers to. -/
def placeholder : Reader Json := fun src c =>
  (referred? src c.passed c.text).map fun (value, rest) => (value, ⟨rest, c.passed + 1⟩)

/-- Read items as long as the separator stands before one, `budget` of them at most. -/
def manyWithin {α : Type} (sep : String) (r : Reader α) : (budget : Nat) → Reader (List α)
  | 0 => pure []
  | budget + 1 =>
    choose [(sep, do
      let x ← r
      let xs ← manyWithin sep r budget
      return x :: xs)] (pure [])

/-- Read items as long as the separator stands before one. No text holds more separators than
characters. -/
def many {α : Type} (sep : String) (r : Reader α) : Reader (List α) := fun src c =>
  manyWithin sep r c.text.length src c

/-- Read items with a separator between. -/
def separated {α : Type} (sep : String) (r : Reader α) : Reader (List α) := do
  let x ← r
  let xs ← many sep r
  return x :: xs

/-- Read a whole statement. Its placeholders are as many as its values. -/
def readWith {α : Type} (r : Reader α) (d : Dialect) (s : Statement) : Option α :=
  match r ⟨d, s.params⟩ ⟨s.sql.toList, 0⟩ with
  | some (a, c) => if c.text.isEmpty && c.passed = s.params.length then some a else none
  | none => none

/-! ### Symbols as they are written -/

/-- The bound values among some symbols. -/
def values (w : List Symbol) : List Json := w.filterMap Symbol.value?

@[simp] lemma values_nil : values [] = [] := rfl

@[simp] lemma values_char (c : Char) (w : List Symbol) : values (.char c :: w) = values w := rfl

@[simp] lemma values_value (v : Json) (w : List Symbol) :
    values (.value v :: w) = v :: values w := rfl

lemma values_content {q : Sql} (h : q.Aligned) : values q.content = q.params := h.params_eq.symm

/-- The text of some symbols, the first placeholder of which has the number `index`. -/
def written (d : Dialect) : (index : Nat) → List Symbol → List Char
  | _, [] => []
  | index, .char c :: w => c :: written d index w
  | index, .value _ :: w => (d.placeholder index).toList ++ written d (index + 1) w

@[simp] lemma written_ofText_append (d : Dialect) (index : Nat) (s : String) (w : List Symbol) :
    written d index (Symbol.ofText s ++ w) = s.toList ++ written d index w := by
  unfold Symbol.ofText
  induction s.toList with
  | nil => rfl
  | cons c cs ih => simp [written, ih]

@[simp] lemma written_ofText (d : Dialect) (index : Nat) (s : String) :
    written d index (Symbol.ofText s) = s.toList := by
  simpa [written] using written_ofText_append d index s []

lemma written_append (d : Dialect) (index : Nat) (w w' : List Symbol) :
    written d index (w ++ w') = written d index w ++ written d (index + (values w).length) w' := by
  induction w generalizing index with
  | nil => rfl
  | cons x w ih =>
    cases x with
    | char c => simp [written, ih]
    | value v =>
      have hnext : index + ((values w).length + 1) = index + 1 + (values w).length := by omega
      simp [written, ih, hnext]

lemma written_eq_weave (d : Dialect) (index : Nat) (w : List Symbol) :
    written d index w = Sql.weave (Sql.gaps w)
      ((Sql.placeholdersFrom d index (values w).length).map String.toList) := by
  induction w generalizing index with
  | nil => rfl
  | cons x w ih =>
    cases x with
    | char c =>
      have hchar := Sql.weave_gaps_char id c w
        ((Sql.placeholdersFrom d index (values w).length).map String.toList)
      simp only [List.map_id, List.map_id_fun, id_eq] at hchar
      rw [written, ih, values_char, hchar]
    | value v =>
      simp [written, Sql.gaps, Sql.weave, Sql.placeholdersFrom, List.range'_succ, ih]

/-- The text of a finished statement is that of its symbols. -/
lemma toList_sql_build {q : Sql} (h : q.Aligned) (d : Dialect) :
    (q.build d).sql.toList = written d 1 q.content := by
  rw [written_eq_weave, values_content h]
  exact Sql.toList_render h d

/-! ### Ends -/

/-- A character that ends an identifier and a number. -/
def isEnd (c : Char) : Bool := !Ident.isPlainChar c && !Ident.isQuote c

/-- What may follow an item: the end of the text or a character that ends words, and none of the
texts that would carry the item on. -/
structure Ends (more : List String) (rest : List Char) : Prop where
  stops : ∀ c ∈ rest.head?, isEnd c = true
  not_more : ∀ s ∈ more, s.toList.isPrefixOf rest = false

/-- The texts differ at a place that both have. -/
def differ : List Char → List Char → Bool
  | c :: cs, d :: ds => c != d || differ cs ds
  | _, _ => false

lemma not_isPrefixOf_of_differ {s t : List Char} (h : differ s t = true) (rest : List Char) :
    s.isPrefixOf (t ++ rest) = false := by
  fun_induction differ s t with
  | case1 c cs d ds ih =>
    simp only [List.cons_append, List.isPrefixOf, Bool.and_eq_false_iff]
    rcases Bool.or_eq_true_iff.mp h with hne | hdiffer
    · left
      simpa using hne
    · right
      exact ih hdiffer
  | case2 => cases h

/-- The keyword `s` may follow an item that the texts `more` would carry on. -/
def clears (more : List String) (s : String) : Bool :=
  match s.toList with
  | [] => false
  | c :: cs => isEnd c && more.all fun t => differ t.toList (c :: cs)

lemma ends_append_of_clears {more : List String} {s : String} (h : clears more s = true)
    (rest : List Char) : Ends more (s.toList ++ rest) := by
  unfold clears at h
  cases hs : s.toList with
  | nil => simp [hs] at h
  | cons c cs =>
    simp only [hs, Bool.and_eq_true, List.all_eq_true] at h
    refine ⟨by simpa using h.1, fun t ht => ?_⟩
    exact not_isPrefixOf_of_differ (h.2 t ht) rest

lemma Ends.mono {more fewer : List String} {rest : List Char} (h : Ends more rest)
    (hsub : fewer ⊆ more) : Ends fewer rest :=
  ⟨h.stops, fun s hs => h.not_more s (hsub hs)⟩

lemma ends_nil {more : List String} (h : ∀ s ∈ more, s.toList ≠ []) : Ends more [] := by
  refine ⟨by simp, fun s hs => ?_⟩
  cases hs' : s.toList with
  | nil => exact absurd hs' (h s hs)
  | cons c cs => rfl

/-! ### Runs of readers -/

variable {α β : Type}

lemma run_bind (r : Reader α) (f : α → Reader β) (src : Source) (c : Cursor) :
    (r >>= f) src c = (r src c).bind fun x => f x.1 src x.2 := by
  change ((r src c).bind fun x => _) = _
  cases r src c <;> rfl

lemma run_exactly (s : String) (src : Source) (rest : List Char) (passed : Nat) :
    exactly s src ⟨s.toList ++ rest, passed⟩ = some ((), ⟨rest, passed⟩) := by
  simp [exactly]

lemma run_ahead (s : String) (f : Bool → Reader α) (src : Source) (c : Cursor) :
    (ahead s >>= f) src c = f (s.toList.isPrefixOf c.text) src c := rfl

/-! ### Identifiers and placeholders -/

/-- A part that reads back as it is written: one without quotes is a plain word. -/
def Legible : IdentPart → Prop
  | .plain name => Ident.isPlain name.toList = true
  | .quoted _ => True

lemma readEnclosed?_doubled {quote : Char} {rest : List Char} (h : ∀ c ∈ rest.head?, c ≠ quote)
    (cs : List Char) :
    Text.readEnclosed? quote (Text.doubled quote cs ++ quote :: rest) = some (cs, rest) := by
  induction cs with
  | nil =>
    cases rest with
    | nil => simp [Text.doubled, Text.readEnclosed?]
    | cons c rest =>
      have hne : c ≠ quote := h c rfl
      simp [Text.doubled, Text.readEnclosed?, hne]
  | cons c cs ih =>
    rw [Text.doubled]
    split_ifs with hc
    · subst hc
      simp [Text.readEnclosed?, ih]
    · cases hd : Text.doubled quote cs with
      | nil => simp_all [Text.readEnclosed?]
      | cons x xs => simp_all [Text.readEnclosed?]

lemma head?_ne_of_ends {more : List String} {rest : List Char} (h : Ends more rest) {quote : Char}
    (hquote : Ident.isQuote quote = true) : ∀ c ∈ rest.head?, c ≠ quote := by
  rintro c hc rfl
  have hend := h.stops c hc
  simp [isEnd, hquote] at hend

lemma isQuote_identQuote (d : Dialect) : Ident.isQuote d.identQuote = true := by
  cases d <;> decide

lemma isPlainStart_ne_quote {c quote : Char} (hc : Ident.isPlainStart c = true)
    (hquote : Ident.isQuote quote = true) : c ≠ quote := by
  rintro rfl
  simp only [Ident.isQuote, Bool.or_eq_true, beq_iff_eq] at hquote
  rcases hquote with rfl | rfl <;> revert hc <;> decide

/-- A run of characters of one kind ends where another kind follows. -/
lemma span_append {p : Char → Bool} {cs rest : List Char} (hcs : ∀ c ∈ cs, p c = true)
    (h : ∀ c ∈ rest.head?, p c = false) :
    (cs ++ rest).takeWhile p = cs ∧ (cs ++ rest).dropWhile p = rest := by
  rw [List.takeWhile_append_of_pos hcs, List.dropWhile_append_of_pos hcs]
  cases rest with
  | nil => simp
  | cons x rest => simp [h x rfl]

lemma Ends.not_plain {more : List String} {rest : List Char} (h : Ends more rest) :
    ∀ c ∈ rest.head?, Ident.isPlainChar c = false := by
  intro c hc
  have hend := h.stops c hc
  simp only [isEnd, Bool.and_eq_true, Bool.not_eq_true'] at hend
  exact hend.1

lemma Ends.not_digit {more : List String} {rest : List Char} (h : Ends more rest) :
    ∀ c ∈ rest.head?, c.isDigit = false := by
  intro c hc
  have hplain := h.not_plain c hc
  simp only [Ident.isPlainChar, Text.isAsciiAlphanumeric, Bool.or_eq_false_iff] at hplain
  exact hplain.2.2

lemma run_part {p : IdentPart} (hp : Legible p) {src : Source} {rest : List Char}
    {more : List String} (h : Ends more rest) (passed : Nat) :
    part src ⟨(p.toSql src.dialect).toList ++ rest, passed⟩ = some (p, ⟨rest, passed⟩) := by
  cases p with
  | plain name =>
    simp only [Legible] at hp
    cases hname : name.toList with
    | nil => simp [hname, Ident.isPlain] at hp
    | cons c cs =>
      simp only [hname, Ident.isPlain, Bool.and_eq_true] at hp
      obtain ⟨htake, hdrop⟩ := span_append (List.all_eq_true.mp hp.2) h.not_plain
      have hne : c ≠ src.dialect.identQuote :=
        isPlainStart_ne_quote hp.1 (isQuote_identQuote src.dialect)
      have hback : String.ofList (c :: cs) = name := by rw [← hname, String.ofList_toList]
      simp [part, IdentPart.toSql, hname, hne, hp.1, htake, hdrop, hback]
  | quoted name =>
    have hread := readEnclosed?_doubled
      (head?_ne_of_ends h (isQuote_identQuote src.dialect)) name.toList
    simp [part, IdentPart.toSql, Dialect.quoteIdent, Text.enclosed, hread]

lemma referred?_placeholder (d : Dialect) (before after : List Json) (v : Json) {rest : List Char}
    {more : List String} (h : Ends more rest) :
    referred? ⟨d, before ++ v :: after⟩ before.length
      ((d.placeholder (before.length + 1)).toList ++ rest) = some (v, rest) := by
  cases d with
  | mysql => simp [referred?, Dialect.placeholder]
  | sqlite => simp [referred?, Dialect.placeholder]
  | postgres =>
    have hdigits : ∀ c ∈ Nat.toDigits 10 (before.length + 1), c.isDigit = true :=
      fun c hc => Nat.isDigit_of_mem_toDigits (by omega) (by omega) hc
    obtain ⟨htake, hdrop⟩ := span_append hdigits h.not_digit
    simp [referred?, Dialect.placeholder, Nat.toString_eq_repr, Nat.toList_repr, htake, hdrop]

end QueryLoom.Dml

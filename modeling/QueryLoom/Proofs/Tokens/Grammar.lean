import QueryLoom.Proofs.Regions
import QueryLoom.Proofs.Tokens.Operators

/-!
# The lexical grammar of SQL

Which texts a token is spelled by, and in front of what. The rules look at the characters of the
token and at most three characters after it; they do not say how the token is found. The reader
finds exactly the spelling at the start of a text.
-/

namespace QueryLoom.SqlToken

/-! ### First characters -/

lemma startsWord_of_isAsciiLetter (d : Dialect) {c : Char} (h : Text.isAsciiLetter c = true) :
    startsWord d c = true := by
  have hascii : c.toNat < 0x80 := by
    simp only [Text.isAsciiLetter, Bool.or_eq_true, Bool.and_eq_true, decide_eq_true_eq] at h
    rcases h with h | h
    · exact Nat.lt_of_le_of_lt (show c.toNat ≤ 'z'.toNat from h.2) (by decide)
    · exact Nat.lt_of_le_of_lt (show c.toNat ≤ 'Z'.toNat from h.2) (by decide)
  have hletter : Text.isLetter c = true := by rw [Text.isLetter, if_pos hascii, h]
  cases d <;> simp [startsWord, hletter]

lemma isAsciiLetter_eq_false {d : Dialect} {c : Char} (h : startsWord d c = false) :
    Text.isAsciiLetter c = false := by
  apply Bool.eq_false_iff.mpr
  intro hletter
  rw [startsWord_of_isAsciiLetter d hletter] at h
  cases h

lemma startsWord_of_isAsciiDigit (d : Dialect) {c : Char} (h : Text.isAsciiDigit c = true) :
    startsWord d c = false := by
  simp only [Text.isAsciiDigit, Bool.and_eq_true, decide_eq_true_eq] at h
  have hlow : 48 ≤ c.toNat := h.1
  have hhigh : c.toNat ≤ 57 := h.2
  have hletter : Text.isLetter c = false := by
    rw [Text.isLetter, if_pos (by omega), Text.isAsciiLetter]
    have hsmall : ¬ 'a' ≤ c := fun ha => absurd (show 97 ≤ c.toNat from ha) (by omega)
    have hcapital : ¬ 'A' ≤ c := fun ha => absurd (show 65 ≤ c.toNat from ha) (by omega)
    simp [hsmall, hcapital]
  have hne : ∀ e ∈ ['_', '$', '@'], c ≠ e := by
    rintro e he rfl
    revert hlow hhigh he
    simp only [List.mem_cons, List.not_mem_nil, or_false]
    rintro hlow hhigh (rfl | rfl | rfl) <;> revert hlow hhigh <;> decide
  simp only [List.mem_cons, List.not_mem_nil, or_false, forall_eq_or_imp, forall_eq] at hne
  cases d <;> simp [startsWord, hletter, hne] <;> omega

lemma isBlank_of_isAsciiDigit {c : Char} (h : Text.isAsciiDigit c = true) :
    Text.isBlank c = false := by
  simp only [Text.isAsciiDigit, Bool.and_eq_true, decide_eq_true_eq] at h
  have hlow : 48 ≤ c.toNat := h.1
  have hhigh : c.toNat ≤ 57 := h.2
  simp [Text.isBlank]
  omega

/-- A character that begins no blank, word, literal or number. -/
def startsSymbol (d : Dialect) (c : Char) : Bool :=
  !(Text.isBlank c || startsWord d c || opensQuotedWord d c || Text.isAsciiDigit c ||
    ['\'', '"', '.', '@', '$'].contains c)

/-- A letter begins a string and not a word. -/
def announcesString (d : Dialect) : List Char → Bool
  | c :: '\'' :: _ =>
    ['N', 'X', 'E'].contains c.toUpper || (c.toUpper == 'B' && d != .sqlite)
  | c :: '"' :: _ => c.toUpper == 'B' && d != .sqlite
  | c :: '&' :: '\'' :: _ => c.toUpper == 'U' && d == .postgres
  | _ => false

/-- A comment begins. -/
def OpensComment (d : Dialect) (cs : List Char) : Prop :=
  ['-', '-'] <+: cs ∨ ['/', '*'] <+: cs ∨ d = .mysql ∧ ['#'] <+: cs

/-- A character that ends a line comment. -/
def endsLine (d : Dialect) (c : Char) : Bool := c == '\n' || (d == .postgres && c == '\r')

/-- A character of the tag of a string between dollar signs. -/
def isTagChar (c : Char) : Bool := Text.isAlphanumeric c || c == '_'

/-! ### The rules -/

/-- A bare word in front of `rest`. On MySQL digits may begin a word, and an at sign takes the next
character with it. -/
inductive Word (d : Dialect) : (text rest : List Char) → Prop where
  | bare {c : Char} (hc : startsWord d c = true) (hat : c ≠ '@') {more rest : List Char}
      (hmore : ∀ e ∈ more, continuesWord d e = true) (hrest : Stops (continuesWord d) rest)
      (h : announcesString d (c :: (more ++ rest)) = false) : Word d (c :: more) rest
  | digits (hd : d = .mysql) {digits more rest : List Char} (h : Decimal digits (more ++ rest))
      (hne : digits ≠ [] ∧ digits ≠ ['.']) (hhex : digits = ['0'] → Stops (· == 'x') (more ++ rest))
      (he : startsExponent (more ++ rest) = false) (hne' : more ≠ [])
      (hmore : ∀ e ∈ more, continuesWord d e = true) (hrest : Stops (continuesWord d) rest) :
      Word d (digits ++ more) rest
  | userVariable (hd : d = .mysql) {c : Char} (hc : c ∉ ['>', '?', '@'])
      (hc' : c ∉ [' ', '\'', '"', '\x60']) {more rest : List Char}
      (hmore : ∀ e ∈ more, continuesWord d e = true)
      (hrest : Stops (continuesWord d) rest) : Word d ('@' :: c :: more) rest
  | systemVariable (hd : d = .mysql) {c : Char} (hc : c ≠ ' ') {more rest : List Char}
      (hmore : ∀ e ∈ more, continuesWord d e = true) (hrest : Stops (continuesWord d) rest) :
      Word d ('@' :: '@' :: c :: more) rest

/-- A number without its mark in front of `rest`. -/
inductive Numeral (d : Dialect) : (text rest : List Char) → Prop where
  | plain {digits rest : List Char} (h : Decimal digits rest) (hne : digits ≠ [] ∧ digits ≠ ['.'])
      (hhex : digits = ['0'] → Stops (· == 'x') rest) (he : exponent? rest = none)
      (hword : d = .mysql → startsExponent rest = true ∨ Stops (continuesWord d) rest) :
      Numeral d digits rest
  | scientific {digits exponent rest : List Char} (h : Decimal digits (exponent ++ rest))
      (hne : digits ≠ [] ∧ digits ≠ ['.']) (he : IsExponent exponent)
      (hrest : Stops Text.isAsciiDigit rest) : Numeral d (digits ++ exponent) rest

/-- A symbol, as it is shown and as it is written, in front of `rest`. -/
inductive Symbol (d : Dialect) : (text source rest : List Char) → Prop where
  | point {rest : List Char} (hrest : Stops Text.isAsciiDigit rest) : Symbol d ['.'] ['.'] rest
  | atSymbol {rest : List Char}
      (hrest : ∀ c ∈ rest.head?, c ∉ ['>', '?', '@'] ∧
        (d = .mysql → c ∈ [' ', '\'', '"', '\x60'])) :
      Symbol d ['@'] ['@'] rest
  | doubleAt {rest : List Char} (hrest : d = .mysql → Stops (· != ' ') rest) :
      Symbol d ['@', '@'] ['@', '@'] rest
  | atOperator {c : Char} (hc : c = '>' ∨ c = '?') (rest : List Char) :
      Symbol d ['@', c] ['@', c] rest
  /-- The plain question mark takes the next character away. -/
  | question (hd : d = .postgres) {c : Char} (hc : c ≠ '|' ∧ c ≠ '&') (rest : List Char) :
      Symbol d ['?'] ['?', c] rest
  | lastQuestion (hd : d = .postgres) : Symbol d ['?'] ['?'] []
  | questionOperator (hd : d = .postgres) {c : Char} (hc : c = '|' ∨ c = '&') (rest : List Char) :
      Symbol d ['?', c] ['?', c] rest
  | operator {c : Char} (hc : startsSymbol d c = true) (hc' : c ∉ ['(', ')', '?'])
      {more run rest : List Char} (hcomment : ¬ OpensComment d (c :: (more ++ (run ++ rest))))
      (hmore : Grows [c] more) (hstop : Stops (extensions (c :: more)).contains (run ++ rest))
      (hrun : CarriedOn d c run rest) :
      Symbol d (shown (c :: more) ++ run) (c :: (more ++ run)) rest

/-- A string or a quoted word, with the text it was written as, in front of `rest`. -/
inductive Literal (d : Dialect) : SqlToken → (source rest : List Char) → Prop where
  | quotedWord {q : Char} (hq : opensQuotedWord d q = true) {text rest : List Char}
      (h : Inside false (closingQuote q) text) (hrest : rest.head? ≠ some (closingQuote q)) :
      Literal d (.quotedWord q text) (q :: (text ++ [closingQuote q])) rest
  | string {q : Char} (hq : q = '\'' ∨ q = '"' ∧ d = .mysql) {text rest : List Char}
      (h : Inside (d == .mysql) q text) (hrest : rest.head? ≠ some q) :
      Literal d (.string [] q text) (q :: (text ++ [q])) rest
  | bits (hd : d ≠ .sqlite) {c q : Char} (hc : c.toUpper = 'B') (hq : q = '\'' ∨ q = '"')
      {text rest : List Char} (h : Inside false q text) (hrest : rest.head? ≠ some q) :
      Literal d (.string ['B'] q text) (c :: q :: (text ++ [q])) rest
  | marked {c : Char} (hc : c.toUpper = 'N' ∨ c.toUpper = 'X') {text rest : List Char}
      (h : Inside true '\'' text) (hrest : rest.head? ≠ some '\'') :
      Literal d (.string [c.toUpper] '\'' text) (c :: '\'' :: (text ++ ['\''])) rest
  | escaped {c : Char} (hc : c.toUpper = 'E') {raw text rest : List Char}
      (h : readEscaped? (raw ++ '\'' :: rest) = some (text, rest)) :
      Literal d (.string ['E'] '\'' text) (c :: '\'' :: (raw ++ ['\''])) rest
  | numbered (hd : d = .postgres) {c : Char} (hc : c.toUpper = 'U') {raw text rest : List Char}
      (h : readNumbered? (raw ++ '\'' :: rest) = some (text, rest)) :
      Literal d (.string ['U', '&'] '\'' text) (c :: '&' :: '\'' :: (raw ++ ['\''])) rest
  | hex {digits rest : List Char} (h : ∀ c ∈ digits, isHex c = true) (hrest : Stops isHex rest) :
      Literal d (.string ['X'] '\'' digits) ('0' :: 'x' :: digits) rest
  | dollars (hd : d ≠ .mysql) {tag text : List Char} (htag : ∀ c ∈ tag, isTagChar c = true)
      (h : ∀ rest, Text.cutAt? ('$' :: (tag ++ ['$'])) (text ++ ('$' :: (tag ++ ['$']) ++ rest))
        = some (text, rest)) (rest : List Char) :
      Literal d (.dollarString tag text)
        ('$' :: (tag ++ '$' :: (text ++ '$' :: (tag ++ ['$'])))) rest

/-- A comment, with its text, in front of `rest`. -/
inductive Comment (d : Dialect) : SqlToken → (source rest : List Char) → Prop where
  | line {opening : List Char} (ho : Binding.IsLineComment d opening) {body : List Char} {e : Char}
      (hbody : ∀ c ∈ body, endsLine d c = false) (he : endsLine d e = true) (rest : List Char) :
      Comment d (.lineComment opening (body ++ [e])) (opening ++ (body ++ [e])) rest
  | lastLine {opening : List Char} (ho : Binding.IsLineComment d opening) {body : List Char}
      (hbody : ∀ c ∈ body, endsLine d c = false) :
      Comment d (.lineComment opening body) (opening ++ body) []
  | block {body : List Char}
      (h : ∀ rest, readBlock? 0 ' ' (body ++ '*' :: '/' :: rest) = some (body ++ ['*'], rest))
      (rest : List Char) :
      Comment d (.blockComment body) ('/' :: '*' :: (body ++ ['*', '/'])) rest

/-- A token is spelled by `source` in front of `rest`. -/
inductive Spells (d : Dialect) : SqlToken → (source rest : List Char) → Prop where
  | blank {c : Char} (hc : Text.isBlank c = true) (hword : startsWord d c = false)
      {rest : List Char} (hrest : c = '\r' → rest.head? ≠ some '\n') : Spells d .blank [c] rest
  | newline (rest : List Char) : Spells d .blank ['\r', '\n'] rest
  | comment {t : SqlToken} {source rest : List Char} (h : Comment d t source rest) :
      Spells d t source rest
  | word {text rest : List Char} (h : Word d text rest) : Spells d (.word text) text rest
  | literal {t : SqlToken} {source rest : List Char} (h : Literal d t source rest) :
      Spells d t source rest
  | number {text rest : List Char} (h : Numeral d text rest) (hrest : Stops (· == 'L') rest) :
      Spells d (.number text false) text rest
  | longNumber {text rest : List Char} (h : Numeral d text ('L' :: rest)) :
      Spells d (.number text true) (text ++ ['L']) rest
  | question (hd : d ≠ .postgres) {numbers rest : List Char}
      (h : ∀ c ∈ numbers, Text.isNumber c = true) (hrest : Stops Text.isNumber rest) :
      Spells d (.placeholder ('?' :: numbers)) ('?' :: numbers) rest
  | dollar (hd : d ≠ .mysql) {tag rest : List Char} (htag : ∀ c ∈ tag, isTagChar c = true)
      (hrest : Stops (fun c => isTagChar c || c == '$') rest) :
      Spells d (.placeholder ('$' :: tag)) ('$' :: tag) rest
  | openParen (rest : List Char) : Spells d .openParen ['('] rest
  | closeParen (rest : List Char) : Spells d .closeParen [')'] rest
  | symbol {text source rest : List Char} (h : Symbol d text source rest) :
      Spells d (.symbol text) source rest

end QueryLoom.SqlToken

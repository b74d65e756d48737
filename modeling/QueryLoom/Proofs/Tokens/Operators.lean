import QueryLoom.Proofs.Tokens.Literals

/-!
# Operators

The longest operator is taken, found by one character after the other, since what an operator begins
with is an operator too. PostgreSQL carries most of them on with any operator characters.
-/

namespace QueryLoom.SqlToken

/-! ### The table -/

/-- The characters that make an operator a longer one. -/
def extensions : List Char → List Char
  | ['-'] => ['>']
  | ['-', '>'] => ['>']
  | ['|'] => ['/', '|']
  | ['|', '|'] => ['/']
  | ['='] => ['>', '=']
  | ['!'] => ['=', '!', '~']
  | ['!', '~'] => ['*', '~']
  | ['!', '~', '~'] => ['*']
  | ['<'] => ['=', '>', '<', '@']
  | ['<', '='] => ['>']
  | ['>'] => ['=', '>']
  | [':'] => [':', '=']
  | ['&'] => ['&']
  | ['^'] => ['@']
  | ['~'] => ['*', '~']
  | ['~', '~'] => ['*']
  | ['#'] => ['-', '>', '#']
  | ['#', '>'] => ['>']
  | _ => []

/-- The characters that begin an operator of more than one character. -/
def branching : List Char := ['-', '|', '=', '!', '<', '>', ':', '&', '^', '~', '#']

/-- What begins with such a character is an operator that PostgreSQL carries on. -/
def isCarriedOn (c : Char) : Bool := ['-', '%', '|', '<', '>', '&', '~', '#'].contains c

/-- An operator as a token has it; one spelling of unequal is left. -/
def shown (text : List Char) : List Char := if text = ['!', '='] then ['<', '>'] else text

lemma extensions_singleton {c : Char} (h : c ∉ branching) : extensions [c] = [] := by
  simp only [branching, List.mem_cons, List.not_mem_nil, or_false, not_or] at h
  rw [extensions] <;> simp [h]

/-! ### The longest operator -/

/-- The longest operator that begins with `taken`, and what follows it. -/
def munch (taken : List Char) : List Char → List Char × List Char
  | [] => (taken, [])
  | c :: cs => if c ∈ extensions taken then munch (taken ++ [c]) cs else (taken, c :: cs)

/-- An operator grows by characters, each of which makes a longer operator. -/
inductive Grows : (taken more : List Char) → Prop where
  | done (taken : List Char) : Grows taken []
  | step {taken : List Char} {c : Char} (hc : c ∈ extensions taken) {more : List Char}
      (h : Grows (taken ++ [c]) more) : Grows taken (c :: more)

lemma munch_stuck {taken cs : List Char} (h : ∀ c ∈ extensions taken, ∀ more, cs ≠ c :: more) :
    munch taken cs = (taken, cs) := by
  cases cs with
  | nil => rfl
  | cons c cs =>
    rw [munch, if_neg]
    intro hc
    exact h c hc cs rfl

lemma munch_eq_iff {taken cs text rest : List Char} :
    munch taken cs = (text, rest) ↔ ∃ more, text = taken ++ more ∧ cs = more ++ rest ∧
      Grows taken more ∧ Stops (extensions text).contains rest := by
  constructor
  · intro h
    fun_induction munch taken cs with
    | case1 taken =>
      cases h
      exact ⟨[], by simp, rfl, .done _, by simp⟩
    | case2 taken c cs hc ih =>
      obtain ⟨more, rfl, rfl, hgrows, hstop⟩ := ih h
      exact ⟨c :: more, by simp, rfl, .step hc hgrows, hstop⟩
    | case3 taken c cs hc =>
      cases h
      exact ⟨[], by simp, rfl, .done _, by simpa using hc⟩
  · rintro ⟨more, rfl, rfl, hgrows, hstop⟩
    induction hgrows with
    | done taken =>
      rw [List.append_nil] at hstop ⊢
      exact munch_stuck (by rintro c hc more rfl; simp [hc] at hstop)
    | @step taken c hc more _ ih =>
      rw [List.append_cons] at hstop ⊢
      rw [List.cons_append, munch, if_pos hc]
      exact ih hstop

/-- A token of a longest operator. -/
def readOperator (d : Dialect) : List Char × List Char → SqlToken × List Char
  | (text, rest) =>
    if text.head?.any isCarriedOn then lexOperator d text rest else (.symbol (shown text), rest)

lemma isOperatorChar_of_isBlank {c : Char} (h : Text.isBlank c = true) :
    isOperatorChar c = false := by
  have hnamed : c ∉ "+-*/<>=~!@#%^&|\x60?".toList := notMem_of_class (by decide) h
  rw [isOperatorChar, Bool.eq_false_iff, Ne, List.contains_iff_mem]
  exact hnamed

lemma lexOperator_blank (d : Dialect) (text : List Char) {b : Char} (h : Text.isBlank b = true)
    (cs : List Char) : lexOperator d text (b :: cs) = (.symbol text, b :: cs) := by
  simp [lexOperator, isOperatorChar_of_isBlank h]

lemma lexSymbol_branching (d : Dialect) {c : Char} (hc : c ∈ branching) (cs : List Char) :
    lexSymbol d c cs = readOperator d (munch [c] cs) := by
  have hspace : ∀ text more, lexOperator d text (' ' :: more) = (.symbol text, ' ' :: more) :=
    fun text more => lexOperator_blank d text rfl more
  fun_cases lexSymbol d c cs with
  | case46 =>
    -- nothing that is spelled out follows, so that the character stands alone
    simp only [branching, List.mem_cons, List.not_mem_nil, or_false] at hc
    rcases hc with rfl | rfl | rfl | rfl | rfl | rfl | rfl | rfl | rfl | rfl | rfl
    all_goals simp_all [munch_stuck, extensions, readOperator, isCarriedOn, shown]
  | _ =>
    first
    | exact absurd hc (by decide)
    | simp_all [munch, munch_stuck, extensions, readOperator, isCarriedOn, shown]

lemma lexSymbol_percent (d : Dialect) (cs : List Char) :
    lexSymbol d '%' cs = readOperator d (['%'], cs) := by
  cases cs with
  | nil =>
    have hread : lexSymbol d '%' [] = (.symbol ['%'], []) := rfl
    simp [hread, readOperator, isCarriedOn, lexOperator]
  | cons b cs =>
    have hread : lexSymbol d '%' (b :: cs) =
        if Text.isBlank b then (.symbol ['%'], b :: cs) else lexOperator d ['%'] (b :: cs) := rfl
    by_cases hb : Text.isBlank b = true
    · simp [hread, hb, readOperator, isCarriedOn, lexOperator_blank d _ hb]
    · simp [hread, hb, readOperator, isCarriedOn]

/-- The table has the operators that the reader spells out. -/
lemma lexSymbol_eq (d : Dialect) {c : Char} (hc : c ∉ ['(', ')', '@', '?']) (cs : List Char) :
    lexSymbol d c cs = readOperator d (munch [c] cs) := by
  by_cases hbranching : c ∈ branching
  · exact lexSymbol_branching d hbranching cs
  · have hnil := extensions_singleton hbranching
    rw [munch_stuck (by simp [hnil])]
    by_cases hpercent : c = '%'
    · subst hpercent
      exact lexSymbol_percent d cs
    · simp only [branching, List.mem_cons, List.not_mem_nil, or_false, not_or] at hbranching hc
      have hread : lexSymbol d c cs = (.symbol [c], cs) := by
        rw [lexSymbol] <;> simp only [hbranching, hc, hpercent, false_implies, implies_true]
      simp [hread, hbranching, hpercent, readOperator, isCarriedOn, shown]

/-! ### What follows the longest operator -/

/-- The characters that carry an operator on which begins with `c`. -/
inductive CarriedOn (d : Dialect) (c : Char) : (run rest : List Char) → Prop where
  | no (h : ¬ (d = .postgres ∧ isCarriedOn c = true)) (rest : List Char) : CarriedOn d c [] rest
  | yes (hd : d = .postgres) (hc : isCarriedOn c = true) {run rest : List Char}
      (hrun : ∀ r ∈ run, isOperatorChar r = true) (hrest : Stops isOperatorChar rest) :
      CarriedOn d c run rest

lemma shown_of_isCarriedOn {c : Char} (h : isCarriedOn c = true) (more : List Char) :
    shown (c :: more) = c :: more := by
  rw [shown, if_neg]
  rintro heq
  obtain ⟨rfl, -⟩ := List.cons.inj heq
  exact absurd h (by decide)

lemma readOperator_eq_iff {d : Dialect} {c : Char} {more after rest : List Char} {t : SqlToken} :
    readOperator d (c :: more, after) = (t, rest) ↔
      ∃ run, after = run ++ rest ∧ CarriedOn d c run rest ∧
        t = .symbol (shown (c :: more) ++ run) := by
  by_cases h : d = .postgres ∧ isCarriedOn c = true
  · obtain ⟨rfl, hc⟩ := h
    have hread : readOperator .postgres (c :: more, after)
        = (.symbol (c :: more ++ after.takeWhile isOperatorChar),
          after.dropWhile isOperatorChar) := by
      simp [readOperator, hc, lexOperator]
    rw [hread, shown_of_isCarriedOn hc]
    constructor
    · intro heq
      cases heq
      exact ⟨_, List.takeWhile_append_dropWhile.symm,
        .yes rfl hc (fun _ => List.mem_takeWhile_imp) (stops_dropWhile _ _), rfl⟩
    · rintro ⟨run, rfl, hrun, rfl⟩
      cases hrun with
      | no h => exact absurd ⟨rfl, hc⟩ h
      | yes _ _ hrun hrest => rw [takeWhile_run hrun hrest, dropWhile_run hrun hrest]
  · have hread : readOperator d (c :: more, after) = (.symbol (shown (c :: more)), after) := by
      by_cases hc : isCarriedOn c = true
      · have hd : d ≠ .postgres := fun hd => h ⟨hd, hc⟩
        simp [readOperator, hc, lexOperator, hd, shown_of_isCarriedOn]
      · simp [readOperator, hc]
    rw [hread]
    constructor
    · intro heq
      cases heq
      exact ⟨[], rfl, .no h _, by rw [List.append_nil]⟩
    · rintro ⟨run, rfl, hrun, rfl⟩
      cases hrun with
      | no => rw [List.append_nil, List.nil_append]
      | yes hd hc => exact absurd ⟨hd, hc⟩ h

/-- A token that begins with an operator character is the longest operator there, carried on where
the dialect does so. -/
lemma lexSymbol_eq_iff {d : Dialect} {c : Char} (hc : c ∉ ['(', ')', '@', '?'])
    {cs rest : List Char} {t : SqlToken} :
    lexSymbol d c cs = (t, rest) ↔
      ∃ more run, cs = more ++ (run ++ rest) ∧ Grows [c] more ∧
        Stops (extensions (c :: more)).contains (run ++ rest) ∧ CarriedOn d c run rest ∧
        t = .symbol (shown (c :: more) ++ run) := by
  rw [lexSymbol_eq d hc]
  obtain ⟨⟨text, after⟩, hmunch⟩ : ∃ result, munch [c] cs = result := ⟨_, rfl⟩
  rw [hmunch]
  obtain ⟨more, rfl, rfl, hgrows, hstop⟩ := munch_eq_iff.mp hmunch
  rw [List.singleton_append, readOperator_eq_iff]
  constructor
  · rintro ⟨run, rfl, hrun, rfl⟩
    exact ⟨more, run, rfl, hgrows, hstop, hrun, rfl⟩
  · rintro ⟨more', run, hcs, hgrows', hstop', hrun, rfl⟩
    have hmunch' := munch_eq_iff.mpr ⟨more', rfl, hcs, hgrows', hstop'⟩
    rw [hmunch] at hmunch'
    cases hmunch'
    exact ⟨run, rfl, hrun, rfl⟩

end QueryLoom.SqlToken

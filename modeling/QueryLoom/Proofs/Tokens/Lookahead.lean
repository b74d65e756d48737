import QueryLoom.Proofs.Tokens.Grammar

/-!
# What a token sees of the text after it

A token is spelled in front of a text, of which the rules look at the next character, and after
the letter of an exponent or an ampersand at one or two more. Two texts that are alike there let the
same tokens stand in front of them.
-/

namespace QueryLoom.SqlToken

/-! ### Texts that begin alike -/

/-- The first character of a token where it is written in another way than it was read. -/
def restylings : List (Char × Char) :=
  [('b', 'B'), ('n', 'N'), ('x', 'X'), ('e', 'E'), ('u', 'U'), ('0', 'X'), ('!', '<')]

/-- A character as it was read, and as it is written. -/
def Restyled (c c' : Char) : Prop := c' = c ∨ (c, c') ∈ restylings

/-- White space of a layout. -/
def IsGap (c : Char) : Prop := c = ' ' ∨ c = '\n'

/-- A text that was read and one that is written begin alike. The characters of a level are those
behind which the next level is looked at; white space and the end of what is written hide the
rest. -/
inductive Alike : (levels : List (List Char)) → (read written : List Char) → Prop where
  | done (read written : List Char) : Alike [] read written
  | nil (levels : List (List Char)) (read : List Char) : Alike levels read []
  | gap (levels : List (List Char)) (read : List Char) {c : Char} (hc : IsGap c)
      (written : List Char) : Alike levels read (c :: written)
  | wall {level : List Char} {c c' : Char} (h : Restyled c c') (hc : c ∉ level)
      (levels : List (List Char)) (read written : List Char) :
      Alike (level :: levels) (c :: read) (c' :: written)
  | step {c c' : Char} (h : Restyled c c') (level : List Char) {levels : List (List Char)}
      {read written : List Char} (hrest : Alike levels read written) :
      Alike (level :: levels) (c :: read) (c' :: written)

lemma Restyled.refl (c : Char) : Restyled c c := .inl rfl

/-- What is looked at behind a number: the letter of an exponent, its sign and a digit. -/
def behindNumber : List (List Char) := [['e', 'E'], ['+', '-'], []]

/-- What is looked at behind a word: an ampersand and a quote. -/
def behindWord : List (List Char) := [['&'], []]

/-- A class without white space, and without a character as it is written where it does not have
the one that was read. -/
def isRobust (p : Char → Bool) : Bool :=
  !p ' ' && !p '\n' && restylings.all fun r => p r.1 || !p r.2

variable {p : Char → Bool} {level : List Char} {levels : List (List Char)}
  {read written : List Char}

lemma isRobust_gap (hp : isRobust p = true) {c : Char} (hc : IsGap c) : p c = false := by
  simp only [isRobust, Bool.and_eq_true, Bool.not_eq_true'] at hp
  rcases hc with rfl | rfl
  · exact hp.1.1
  · exact hp.1.2

lemma isRobust_restyled (hp : isRobust p = true) {c c' : Char} (hc : Restyled c c')
    (h : p c = false) : p c' = false := by
  simp only [isRobust, Bool.and_eq_true, List.all_eq_true] at hp
  rcases hc with rfl | hc
  · exact h
  · simpa [h] using hp.2 _ hc

/-- The next character stays outside a class. -/
lemma Alike.stops (h : Alike (level :: levels) read written) (hp : isRobust p = true)
    (hread : Stops p read) : Stops p written := by
  cases h with
  | nil => exact stops_nil p
  | gap _ _ hc => exact stops_cons.mpr (isRobust_gap hp hc)
  | wall hc | step hc => exact stops_cons.mpr (isRobust_restyled hp hc (stops_cons.mp hread))

/-- A character that is neither white space nor put in place of another was read as it is. -/
lemma Alike.exists_cons {c : Char} (h : Alike (level :: levels) read (c :: written))
    (hc : c ∉ [' ', '\n', 'B', 'N', 'X', 'E', 'U', '<']) :
    ∃ more, read = c :: more ∧ (c ∈ level → Alike levels more written) := by
  have hrestyled : ∀ e, Restyled e c → e = c := by
    rintro e (rfl | he)
    · rfl
    · simp only [restylings, List.mem_cons, Prod.mk.injEq, List.not_mem_nil, or_false] at he hc
      tauto
  cases h with
  | gap _ _ hgap => rcases hgap with rfl | rfl <;> simp at hc
  | wall h hlevel =>
    obtain rfl := hrestyled _ h
    exact ⟨_, rfl, fun hmem => absurd hmem hlevel⟩
  | step h _ hrest =>
    obtain rfl := hrestyled _ h
    exact ⟨_, rfl, fun _ => hrest⟩

/-! ### What is looked at further on -/

lemma exponent?_ne_none {e d : Char} (he : e = 'e' ∨ e = 'E') {sign : List Char}
    (hsign : sign = [] ∨ sign = ['+'] ∨ sign = ['-']) (hd : Text.isAsciiDigit d = true)
    (more : List Char) : exponent? (e :: (sign ++ d :: more)) ≠ none := by
  have hdigits : (d :: more).takeWhile Text.isAsciiDigit ≠ [] := by
    rw [List.takeWhile_cons_of_pos hd]
    exact List.cons_ne_nil _ _
  have hexponent : IsExponent (e :: (sign ++ (d :: more).takeWhile Text.isAsciiDigit)) :=
    ⟨e, sign, _, rfl, he, hsign, hdigits, fun _ => List.mem_takeWhile_imp⟩
  have hread := exponent?_eq hexponent (stops_dropWhile Text.isAsciiDigit (d :: more))
  rw [List.cons_append, List.append_assoc, List.takeWhile_append_dropWhile] at hread
  rw [hread]
  exact Option.some_ne_none _

/-- The letter of an exponent was the letter of one. -/
lemma Alike.exists_letter {e : Char} (h : Alike behindNumber read (e :: written))
    (he : e = 'e' ∨ e = 'E') : ∃ e' more, read = e' :: more ∧ (e' = 'e' ∨ e' = 'E') ∧
      Alike [['+', '-'], []] more written := by
  have hrestyled : ∀ c, Restyled c e → c = 'e' ∨ c = 'E' := by
    rintro c (rfl | hc)
    · exact he
    · rcases he with rfl | rfl <;> simp [restylings] at hc
      exact .inl hc
  cases h with
  | gap _ _ hgap => rcases hgap with rfl | rfl <;> simp at he
  | wall h hlevel => exact absurd (hrestyled _ h) (by simpa using hlevel)
  | step h _ hrest => exact ⟨_, _, rfl, hrestyled _ h, hrest⟩

lemma Alike.exists_digit {d : Char} (h : Alike (level :: levels) read (d :: written))
    (hd : Text.isAsciiDigit d = true) : ∃ more, read = d :: more := by
  obtain ⟨more, rfl, -⟩ := h.exists_cons (notMem_of_class (by decide) hd)
  exact ⟨more, rfl⟩

/-- No exponent comes up behind a number. -/
lemma Alike.exponent?_eq_none (h : Alike behindNumber read written)
    (hread : exponent? read = none) : exponent? written = none := by
  rw [Option.eq_none_iff_forall_ne_some]
  rintro ⟨text, rest⟩ hexponent
  obtain ⟨rfl, ⟨e, sign, digits, rfl, he, hsign, hne, hdigits⟩, -⟩ :=
    exponent?_eq_some_iff.mp hexponent
  obtain ⟨d, digits, rfl⟩ := List.exists_cons_of_ne_nil hne
  have hd := hdigits d List.mem_cons_self
  obtain ⟨e', more, rfl, he', hmore⟩ := h.exists_letter he
  rcases hsign with rfl | hsign
  · obtain ⟨more', rfl⟩ := hmore.exists_digit hd
    exact exponent?_ne_none he' (.inl rfl) hd more' hread
  · obtain ⟨s, rfl, hs⟩ : ∃ s, sign = [s] ∧ s ∈ ['+', '-'] := by
      rcases hsign with rfl | rfl
      · exact ⟨'+', rfl, by decide⟩
      · exact ⟨'-', rfl, by decide⟩
    have hs' : s ∉ [' ', '\n', 'B', 'N', 'X', 'E', 'U', '<'] := by
      simp only [List.mem_cons, List.not_mem_nil, or_false] at hs
      rcases hs with rfl | rfl <;> decide
    obtain ⟨more', rfl, hmore'⟩ := hmore.exists_cons hs'
    obtain ⟨more'', rfl⟩ := (hmore' hs).exists_digit hd
    exact exponent?_ne_none he' (.inr hsign) hd more'' hread

/-- No string is announced by a word of one letter. -/
lemma Alike.announcesString {d : Dialect} {c : Char} (h : Alike behindWord read written)
    (hread : announcesString d (c :: read) = false) :
    announcesString d (c :: written) = false := by
  unfold SqlToken.announcesString
  split
  · next heq =>
    obtain ⟨rfl, rfl⟩ := List.cons.inj heq
    obtain ⟨more, rfl, -⟩ := h.exists_cons (by decide)
    exact hread
  · next heq =>
    obtain ⟨rfl, rfl⟩ := List.cons.inj heq
    obtain ⟨more, rfl, -⟩ := h.exists_cons (by decide)
    exact hread
  · next heq =>
    obtain ⟨rfl, rfl⟩ := List.cons.inj heq
    obtain ⟨more, rfl, hmore⟩ := h.exists_cons (by decide)
    obtain ⟨more', rfl, -⟩ := (hmore (by decide)).exists_cons (by decide)
    exact hread
  · rfl

end QueryLoom.SqlToken

import QueryLoom.Proofs.TrimQuoted

/-!
# Texts without commas to rewrite

Two rewritings of commas look into the text that markers were replaced by: one shortens runs of
commas and blanks, the other removes commas in front of the word `where`. They leave a text alone
exactly if it has no such run and no such word.
-/

namespace QueryLoom.Markup

/-! ### Runs of commas and blanks -/

/-- After no comma there are two more commas or blanks. -/
def Runless (cs : List Char) : Prop :=
  ∀ a b rest, ',' :: a :: b :: rest <:+ cs → ¬(isCommaOrBlank a ∧ isCommaOrBlank b)

lemma Runless.of_append {cs cs' : List Char} (h : Runless (cs ++ cs')) : Runless cs' :=
  fun a b rest hsuffix => h a b rest (hsuffix.trans (List.suffix_append cs cs'))

lemma Runless.cons {c : Char} {cs : List Char} (h : Runless cs)
    (hc : ∀ a b rest, c = ',' → cs = a :: b :: rest → ¬(isCommaOrBlank a ∧ isCommaOrBlank b)) :
    Runless (c :: cs) := by
  intro a b rest hsuffix
  rcases List.suffix_cons_iff.mp hsuffix with heq | hsuffix
  · obtain ⟨hcomma, htail⟩ := List.cons.inj heq
    exact hc a b rest hcomma.symm htail.symm
  · exact h a b rest hsuffix

/-- A comma, at most one more sign of a run, and a character that ends the run. -/
lemma Runless.short {more cs : List Char} {c : Char} (hmore : more.length ≤ 1)
    (hc : isCommaOrBlank c = false) (h : Runless cs) : Runless (',' :: (more ++ c :: cs)) := by
  have hend : Runless (c :: cs) := by
    refine h.cons fun _ _ _ hcomma => ?_
    subst hcomma
    cases hc
  rcases more with _ | ⟨d, _ | ⟨e, more⟩⟩
  · refine hend.cons fun a b rest _ heq hrun => ?_
    rw [← (List.cons.inj heq).1, hc] at hrun
    exact absurd hrun.1 (by decide)
  · refine Runless.cons (hend.cons fun a b rest _ heq hrun => ?_) fun a b rest _ heq hrun => ?_
    · rw [← (List.cons.inj heq).1, hc] at hrun
      exact absurd hrun.1 (by decide)
    · rw [← (List.cons.inj (List.cons.inj heq).2).1, hc] at hrun
      exact absurd hrun.2 (by decide)
  · simp at hmore

/-- The text of a run that is being read. -/
def runText : Option (List Char) → List Char
  | none => []
  | some more => ',' :: more.reverse

lemma length_finish (more : List Char) :
    (collapseCommas.finish (some more)).length = min 2 (more.length + 1) := by
  rw [collapseCommas.finish]
  split
  · simp only [List.length_cons, List.length_nil]
    omega
  · rw [List.length_cons, List.length_reverse]
    omega

lemma length_collapseCommas_le (run : Option (List Char)) (cs : List Char) :
    (collapseCommas run cs).length ≤ (runText run).length + cs.length := by
  induction cs generalizing run with
  | nil =>
    cases run with
    | none => exact Nat.le_refl 0
    | some more =>
      simp only [collapseCommas, runText, length_finish, List.length_cons, List.length_reverse]
      omega
  | cons c cs ih =>
    have hnone := ih none
    cases run with
    | none =>
      have hcomma := ih (some [])
      simp only [collapseCommas]
      split <;> simp only [runText, List.length_cons, List.length_nil, List.reverse_nil] at * <;>
        omega
    | some more =>
      have hmore := ih (some (c :: more))
      simp only [collapseCommas]
      split <;> simp only [runText, List.length_append, List.length_cons, List.length_nil,
        List.length_reverse, length_finish] at * <;> omega

/-- A text that does not get shorter has no long runs. -/
lemma runless_of_length_collapseCommas {r : Option (List Char)} {cs : List Char}
    (h : (runText r).length + cs.length ≤ (collapseCommas r cs).length) :
    Runless (runText r ++ cs) := by
  induction cs generalizing r with
  | nil =>
    cases r with
    | none => exact fun _ _ _ hsuffix => absurd (List.suffix_nil.mp hsuffix) (by simp)
    | some more =>
      simp only [collapseCommas, runText, length_finish, List.length_cons, List.length_reverse,
        List.length_nil] at h
      intro a b rest hsuffix
      have hle := hsuffix.length_le
      simp only [runText, List.append_nil, List.length_cons, List.length_reverse] at hle
      omega
  | cons c cs ih =>
    cases r with
    | none =>
      simp only [collapseCommas] at h
      split at h
      · next hc =>
        rw [beq_iff_eq.mp hc]
        refine ih (r := some []) ?_
        simpa [runText, Nat.add_comm] using h
      · next hc =>
        refine (ih (r := none) ?_).cons fun _ _ _ hcomma => absurd hcomma (by simpa using hc)
        simpa [runText] using h
    | some more =>
      simp only [collapseCommas] at h
      split at h
      · have hmore := ih (r := some (c :: more)) (by
          simp only [runText, List.length_cons, List.length_reverse] at h ⊢
          omega)
        simpa [runText] using hmore
      · next hc =>
        have hnone := length_collapseCommas_le none cs
        simp only [runText, List.length_append, List.length_cons, List.length_nil,
          List.length_reverse, length_finish] at h hnone
        have hrest : Runless cs := ih (r := none) (by
          simp only [runText, List.length_nil]
          omega)
        refine hrest.short ?_ (by simpa using hc)
        rw [List.length_reverse]
        omega

/-- A run in a text without long runs is not shortened. -/
lemma finish_of_runless {more cs : List Char} (hmore : ∀ c ∈ more, isCommaOrBlank c = true)
    (h : Runless (',' :: (more.reverse ++ cs))) :
    collapseCommas.finish (some more) = ',' :: more.reverse := by
  rw [collapseCommas.finish]
  refine if_neg fun hlength => ?_
  rw [← List.length_reverse] at hlength
  have hpos : 0 < more.reverse.length := by omega
  obtain ⟨a, tail, hreverse⟩ := List.exists_cons_of_length_pos hpos
  obtain ⟨b, rest, rfl⟩ := List.exists_cons_of_length_pos (l := tail) (by
    rw [hreverse, List.length_cons] at hlength
    omega)
  have hall : ∀ c ∈ a :: b :: rest, isCommaOrBlank c = true := by
    rw [← hreverse]
    exact fun c hc => hmore c (List.mem_reverse.mp hc)
  rw [hreverse] at h
  exact h a b (rest ++ cs) (List.suffix_refl _) ⟨hall a (by simp), hall b (by simp)⟩

lemma collapseCommas_of_runless {r : Option (List Char)} {cs : List Char}
    (hrun : ∀ more, r = some more → ∀ c ∈ more, isCommaOrBlank c = true)
    (h : Runless (runText r ++ cs)) : collapseCommas r cs = runText r ++ cs := by
  induction cs generalizing r with
  | nil =>
    cases r with
    | none => rfl
    | some more =>
      rw [collapseCommas, finish_of_runless (hrun more rfl) h]
      exact (List.append_nil _).symm
  | cons c cs ih =>
    cases r with
    | none =>
      simp only [collapseCommas]
      split
      · next hc =>
        rw [beq_iff_eq.mp hc] at h ⊢
        refine ih (r := some []) (fun more hmore => ?_) h
        cases hmore
        exact fun _ hd => absurd hd List.not_mem_nil
      · have hrest : Runless cs := Runless.of_append (show Runless ([c] ++ cs) from h)
        rw [ih (r := none) (fun _ hmore => absurd hmore (by simp)) hrest]
        rfl
    | some more =>
      simp only [collapseCommas]
      have hmore := hrun more rfl
      split
      · next hc =>
        have htext : runText (some more) ++ c :: cs = runText (some (c :: more)) ++ cs := by
          simp [runText]
        rw [htext] at h ⊢
        refine ih (r := some (c :: more)) (fun more' hmore' => ?_) h
        cases hmore'
        exact List.forall_mem_cons.mpr ⟨hc, hmore⟩
      · have hrest : Runless cs := by
          have hsplit : runText (some more) ++ c :: cs = (runText (some more) ++ [c]) ++ cs := by
            simp
          rw [hsplit] at h
          exact h.of_append
        rw [finish_of_runless hmore h, ih (r := none) (fun _ hmore' => absurd hmore' (by simp)) hrest]
        rfl

/-! ### Quiet texts -/

/-- After no comma there are two more commas or blanks, or the word `where`. -/
structure Quiet (cs : List Char) : Prop where
  runless : Runless cs
  wordless : ∀ rest, rest <:+ cs → afterCommaWhere? rest = none

lemma mendWhere_eq_self_iff (cs : List Char) :
    mendWhere cs = cs ↔ ∀ rest, rest <:+ cs → afterCommaWhere? rest = none := by
  induction cs with
  | nil =>
    refine ⟨fun _ rest hsuffix => ?_, fun _ => rfl⟩
    rw [List.suffix_nil.mp hsuffix]
    rfl
  | cons c cs ih =>
    constructor
    · intro h
      have hnone : afterCommaWhere? (c :: cs) = none := by
        by_contra hsome
        obtain ⟨rest, hrest⟩ := Option.ne_none_iff_exists'.mp hsome
        have hc : c ≠ ',' := by
          -- The comma would have become a blank.
          rw [mendWhere_of_some hrest] at h
          rintro rfl
          exact absurd (List.cons.inj h).1 (by decide)
        exact hsome (afterCommaWhere?_of_ne hc cs)
      rw [mendWhere_of_none hnone] at h
      intro rest hsuffix
      rcases List.suffix_cons_iff.mp hsuffix with rfl | hsuffix
      · exact hnone
      · exact ih.mp (List.cons.inj h).2 rest hsuffix
    · intro h
      rw [mendWhere_of_none (h _ (List.suffix_refl _)),
        ih.mpr fun rest hsuffix => h rest (hsuffix.trans (List.suffix_cons c cs))]

/-- Exactly the quiet texts are left alone by both rewritings. -/
lemma quiet_iff (cs : List Char) :
    Quiet cs ↔ collapseCommas none cs = cs ∧ mendWhere cs = cs := by
  constructor
  · intro h
    have hcollapse := collapseCommas_of_runless (r := none)
      (fun _ hmore => absurd hmore (by simp)) h.runless
    exact ⟨hcollapse, (mendWhere_eq_self_iff cs).mpr h.wordless⟩
  · rintro ⟨hcollapse, hmend⟩
    refine ⟨runless_of_length_collapseCommas (r := none) ?_, (mendWhere_eq_self_iff cs).mp hmend⟩
    rw [hcollapse]
    simp [runText]

end QueryLoom.Markup

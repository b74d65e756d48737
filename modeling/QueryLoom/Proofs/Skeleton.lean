import QueryLoom.Proofs.QuietText

/-!
# Texts around a literal

A skeleton is a text with gaps that are all filled with one literal. Trimming a filled skeleton
gives a filled skeleton again, and the same one for every literal that is quiet: that holds nothing
the rewriting of commas looks for. Only whether there are letters in a text is seen through quotes,
so the literals of one class all have letters or all have none.
-/

namespace QueryLoom.Markup

open Text

/-- A text with gaps. -/
abbrev Skeleton := List (Option Char)

/-- The text with a literal in every gap. -/
def fill (literal : List Char) (sk : Skeleton) : List Char :=
  sk.flatMap fun
    | none => literal
    | some c => [c]

/-- A quiet text between quotes, with letters or without. -/
structure IsLiteral (letters : Bool) (literal : List Char) : Prop where
  quoted : ∃ body, literal = '\'' :: (body ++ ['\''])
  quiet : Quiet literal
  letters : literal.any isAsciiLetter = letters

/-! ### Filling -/

@[simp] lemma fill_nil (literal : List Char) : fill literal [] = [] := rfl

@[simp] lemma fill_some (literal : List Char) (c : Char) (sk : Skeleton) :
    fill literal (some c :: sk) = c :: fill literal sk := rfl

@[simp] lemma fill_none (literal : List Char) (sk : Skeleton) :
    fill literal (none :: sk) = literal ++ fill literal sk := rfl

@[simp] lemma fill_append (literal : List Char) (sk sk' : Skeleton) :
    fill literal (sk ++ sk') = fill literal sk ++ fill literal sk' := List.flatMap_append

@[simp] lemma fill_map_some (literal cs : List Char) : fill literal (cs.map some) = cs := by
  induction cs with
  | nil => rfl
  | cons c cs ih => rw [List.map_cons, fill_some, ih]

/-- The first gap of a skeleton. -/
lemma Skeleton.first_gap (sk : Skeleton) :
    (∃ cs : List Char, sk = cs.map some) ∨
      ∃ (cs : List Char) (rest : Skeleton), sk = cs.map some ++ none :: rest := by
  induction sk with
  | nil => exact .inl ⟨[], rfl⟩
  | cons x sk ih =>
    cases x with
    | none => exact .inr ⟨[], sk, rfl⟩
    | some c =>
      rcases ih with ⟨cs, rfl⟩ | ⟨cs, rest, rfl⟩
      · exact .inl ⟨c :: cs, rfl⟩
      · exact .inr ⟨c :: cs, rest, rfl⟩

/-- The last gap of a skeleton. -/
lemma Skeleton.last_gap (sk : Skeleton) :
    (∃ cs : List Char, sk = cs.map some) ∨
      ∃ (start : Skeleton) (cs : List Char), sk = start ++ none :: cs.map some := by
  induction sk with
  | nil => exact .inl ⟨[], rfl⟩
  | cons x sk ih =>
    rcases ih with ⟨cs, rfl⟩ | ⟨start, cs, rfl⟩
    · cases x with
      | none => exact .inr ⟨[], cs, rfl⟩
      | some c => exact .inl ⟨c :: cs, rfl⟩
    · exact .inr ⟨x :: start, cs, rfl⟩

/-! ### Stable operations -/

variable {letters : Bool} {T T' : List Char → List Char}

/-- The operation makes filled skeletons into filled skeletons, whatever literal fills them. -/
def Stable (letters : Bool) (T : List Char → List Char) : Prop :=
  ∀ sk, ∃ sk', ∀ literal, IsLiteral letters literal → T (fill literal sk) = fill literal sk'

lemma Stable.comp (h : Stable letters T) (h' : Stable letters T') :
    Stable letters fun cs => T' (T cs) := by
  intro sk
  obtain ⟨sk', hsk'⟩ := h sk
  obtain ⟨sk'', hsk''⟩ := h' sk'
  exact ⟨sk'', fun literal hl => (congrArg T' (hsk' literal hl)).trans (hsk'' literal hl)⟩

/-- Operations that look at the start of a text. -/
lemma Stable.of_front (h : ∀ cs, ∃ cs', ∀ t, T (cs ++ '\'' :: t) = cs' ++ '\'' :: t) :
    Stable letters T := by
  intro sk
  rcases sk.first_gap with ⟨cs, rfl⟩ | ⟨cs, rest, rfl⟩
  · exact ⟨(T cs).map some, fun literal _ => by rw [fill_map_some, fill_map_some]⟩
  · obtain ⟨cs', hcs'⟩ := h cs
    refine ⟨cs'.map some ++ none :: rest, fun literal hl => ?_⟩
    obtain ⟨body, rfl⟩ := hl.quoted
    simp only [fill_append, fill_map_some, fill_none, List.cons_append]
    exact hcs' _

/-- Operations that look at the end of a text. -/
lemma Stable.of_back (h : ∀ t, ∃ t', ∀ cs, T (cs ++ '\'' :: t) = cs ++ '\'' :: t') :
    Stable letters T := by
  intro sk
  rcases sk.last_gap with ⟨cs, rfl⟩ | ⟨start, cs, rfl⟩
  · exact ⟨(T cs).map some, fun literal _ => by rw [fill_map_some, fill_map_some]⟩
  · obtain ⟨cs', hcs'⟩ := h cs
    refine ⟨start ++ none :: cs'.map some, fun literal hl => ?_⟩
    obtain ⟨body, rfl⟩ := hl.quoted
    have hsplit := hcs' (fill ('\'' :: (body ++ ['\''])) start ++ '\'' :: body)
    simpa [fill_append, fill_map_some, fill_none] using hsplit

/-- Operations that work on the texts between quotes one by one. -/
lemma Stable.of_split (hnil : T [] = [])
    (h : ∀ cs t, T (cs ++ '\'' :: t) = T cs ++ '\'' :: T t)
    (hliteral : ∀ literal, IsLiteral letters literal → T literal = literal) : Stable letters T := by
  intro sk
  induction hn : sk.length using Nat.strong_induction_on generalizing sk with
  | _ n ih =>
    rcases sk.first_gap with ⟨cs, rfl⟩ | ⟨cs, rest, rfl⟩
    · exact ⟨(T cs).map some, fun literal _ => by rw [fill_map_some, fill_map_some]⟩
    · have hlt : rest.length < n := by simp [← hn]; omega
      obtain ⟨rest', hrest'⟩ := ih rest.length hlt rest rfl
      refine ⟨(T cs).map some ++ none :: rest', fun literal hl => ?_⟩
      have hfixed := hliteral literal hl
      have hrest := hrest' literal hl
      obtain ⟨body, rfl⟩ := hl.quoted
      have hbody : T body = body := by
        have hquotes := h [] (body ++ ['\''])
        rw [h body [], hnil, List.nil_append, List.nil_append, hfixed] at hquotes
        exact (List.append_cancel_right (List.cons.inj hquotes).2).symm
      simp only [fill_append, fill_map_some, fill_none, List.cons_append, List.append_assoc,
        List.nil_append]
      rw [h cs, h body, hbody, hrest]

/-! ### Trimming -/

lemma stable_trim : Stable letters trim := by
  have hstart : Stable letters trimStart :=
    .of_front fun cs => ⟨trimStart cs, fun t => trimStart_append cs t⟩
  have hend : Stable letters trimEnd := .of_back fun t => ⟨trimEnd t, fun cs => trimEnd_append cs t⟩
  exact hstart.comp hend

lemma stable_dropLeading {o : Overrides} (ho : o.Quoteless) : Stable letters o.dropLeading :=
  .of_front fun cs => Overrides.dropLeading_append ho cs

lemma stable_dropTrailing {o : Overrides} (ho : o.Quoteless) :
    Stable letters (o.dropTrailing none) :=
  .of_back fun t => ⟨o.dropTrailing (some '\'') t, fun cs =>
    Overrides.dropTrailing_append ho none cs t⟩

lemma stable_collapseCommas : Stable letters (collapseCommas none) :=
  .of_split rfl (fun cs t => collapseCommas_append none cs t) fun _ hl =>
    ((quiet_iff _).mp hl.quiet).1

lemma stable_mendWhere : Stable letters mendWhere :=
  .of_split rfl mendWhere_append fun _ hl => ((quiet_iff _).mp hl.quiet).2

lemma stable_tidyAssignments : Stable letters tidyAssignments := by
  have hleading : Stable letters dropLeadingComma := .of_front dropLeadingComma_append
  have htrailing : Stable letters dropTrailingComma :=
    .of_back fun t => ⟨dropTrailingComma t, fun cs => dropTrailingComma_append cs t⟩
  exact (stable_collapseCommas.comp hleading).comp htrailing

/-- The trimming has no quote in the pieces it removes. -/
structure Trimming.Quoteless (t : Trimming) : Prop where
  lead : t.leadOverrides.Quoteless
  tail : t.tailOverrides.Quoteless

lemma stable_strip {t : Trimming} (ht : t.Quoteless) : Stable letters t.strip := by
  have hlead : Stable letters fun cs => trim (t.leadOverrides.dropLeading (trim cs)) :=
    (stable_trim.comp (stable_dropLeading ht.lead)).comp stable_trim
  have hend : Stable letters fun cs =>
      if t.leadAtEnd then trim (t.leadOverrides.dropTrailing none cs) else cs := by
    cases t.leadAtEnd with
    | true => exact (stable_dropTrailing ht.lead).comp stable_trim
    | false => exact fun sk => ⟨sk, fun _ _ => rfl⟩
  exact (hlead.comp hend).comp ((stable_dropTrailing ht.tail).comp stable_trim)

/-! ### Texts seen as a whole -/

lemma any_letter_fill (sk : Skeleton) :
    ∃ b, ∀ literal, IsLiteral letters literal → (fill literal sk).any isAsciiLetter = b := by
  induction sk with
  | nil => exact ⟨false, fun _ _ => rfl⟩
  | cons x sk ih =>
    obtain ⟨b, hb⟩ := ih
    cases x with
    | none =>
      refine ⟨letters || b, fun literal hl => ?_⟩
      rw [fill_none, List.any_append, hl.letters, hb literal hl]
    | some c =>
      refine ⟨isAsciiLetter c || b, fun literal hl => ?_⟩
      rw [fill_some, List.any_cons, hb literal hl]

lemma all_blank_fill (sk : Skeleton) :
    ∃ b, ∀ literal, IsLiteral letters literal → (fill literal sk).all isBlank = b := by
  rcases sk.first_gap with ⟨cs, rfl⟩ | ⟨cs, rest, rfl⟩
  · exact ⟨cs.all isBlank, fun literal _ => by rw [fill_map_some]⟩
  · refine ⟨false, fun literal hl => ?_⟩
    obtain ⟨body, rfl⟩ := hl.quoted
    rw [List.all_eq_false]
    exact ⟨'\'', by simp [fill_append], by decide⟩

lemma isEmpty_fill (sk : Skeleton) {literal : List Char} (hl : IsLiteral letters literal) :
    (fill literal sk).isEmpty = sk.isEmpty := by
  obtain ⟨body, rfl⟩ := hl.quoted
  cases sk with
  | nil => rfl
  | cons x sk => cases x <;> rfl

/-! ### Pieces -/

/-- The texts between the gaps, before the first and after the last of them. -/
def pieces : Skeleton → List (List Char)
  | [] => [[]]
  | none :: sk => [] :: pieces sk
  | some c :: sk =>
    match pieces sk with
    | [] => [[c]]
    | piece :: more => (c :: piece) :: more

lemma pieces_ne_nil (sk : Skeleton) : pieces sk ≠ [] := by
  fun_induction pieces sk <;> simp_all

/-- A filled skeleton is its pieces with the literal between them. -/
lemma fill_eq_intercalate (literal : List Char) (sk : Skeleton) :
    fill literal sk = literal.intercalate (pieces sk) := by
  induction sk with
  | nil => rfl
  | cons x sk ih =>
    obtain ⟨piece, more, hpieces⟩ := List.exists_cons_of_ne_nil (pieces_ne_nil sk)
    rw [hpieces] at ih
    cases x with
    | none =>
      rw [fill_none, ih, pieces, hpieces, List.intercalate_cons_cons, List.nil_append]
    | some c =>
      rw [fill_some, ih, pieces, hpieces]
      cases more with
      | nil => simp
      | cons next more => simp [List.intercalate_cons_cons]

end QueryLoom.Markup

import Mathlib.Data.List.DropRight
import QueryLoom.Text.Trim

/-!
# Trimmed texts

What is known of a text without the blanks at its ends: what it begins with, when nothing is left of
it, and that blanks at the ends do not matter, not even when the text is split first.
-/

namespace QueryLoom.Text

lemma isBlank_of_trimStart {cs rest : List Char} {c : Char} (h : trimStart cs = c :: rest) :
    isBlank c = false := by
  have hhead := List.head?_dropWhile_not isBlank cs
  rw [← trimStart, h] at hhead
  simpa using hhead

/-- Nothing is left to drop in front. -/
lemma trimStart_trim (cs : List Char) : trimStart (trim cs) = trim cs := by
  have hprefix : trim cs <+: trimStart cs := List.rdropWhile_prefix isBlank (trimStart cs)
  cases htrim : trim cs with
  | nil => rfl
  | cons c rest =>
    rw [htrim] at hprefix
    obtain ⟨more, hmore⟩ := hprefix
    exact List.dropWhile_cons_of_neg (by simp [isBlank_of_trimStart hmore.symm])

lemma trim_trim (cs : List Char) : trim (trim cs) = trim cs := by
  rw [trim, trimStart_trim]
  exact List.rdropWhile_idempotent isBlank (trimStart cs)

lemma trim_eq_nil_iff {cs : List Char} : trim cs = [] ↔ ∀ c ∈ cs, isBlank c = true := by
  have hend : trim cs = [] ↔ ∀ c ∈ trimStart cs, isBlank c = true := List.rdropWhile_eq_nil_iff
  have hstart : trimStart cs = [] ↔ ∀ c ∈ cs, isBlank c = true := List.dropWhile_eq_nil_iff
  rw [hend, ← hstart]
  cases hcs : trimStart cs with
  | nil => simp
  | cons c rest => simp [isBlank_of_trimStart hcs]

lemma isBlankText_iff {s : String} : isBlankText s = true ↔ trim s.toList = [] := by
  rw [trim_eq_nil_iff, isBlankText, List.all_eq_true]

lemma trimmed_trimmed (s : String) : trimmed (trimmed s) = trimmed s := by
  simp only [trimmed, String.toList_ofList, trim_trim]

lemma isBlankText_trimmed (s : String) : isBlankText (trimmed s) = isBlankText s := by
  rw [Bool.eq_iff_iff, isBlankText_iff, isBlankText_iff, trimmed, String.toList_ofList, trim_trim]

/-! ### What a trimmed text begins with -/

lemma prefix_rdropWhile {p : Char → Bool} {piece : List Char} (hpiece : ∀ c ∈ piece, p c = false)
    (rest : List Char) : piece <+: (piece ++ rest).rdropWhile p := by
  induction rest using List.reverseRecOn with
  | nil =>
    have hself : piece.rdropWhile p = piece :=
      List.rdropWhile_eq_self_iff.mpr fun hne => by simp [hpiece _ (List.getLast_mem hne)]
    simp [hself]
  | append_singleton rest c ih =>
    rw [← List.append_assoc, List.rdropWhile_concat]
    split
    · exact ih
    · rw [List.append_assoc]
      exact List.prefix_append piece _

/-- The trimmed text begins with a piece if only blanks stand in front of it. -/
lemma prefix_trim_iff {piece cs : List Char} (hne : piece ≠ [])
    (hpiece : ∀ c ∈ piece, isBlank c = false) : piece <+: trim cs ↔
      ∃ front rest, (∀ c ∈ front, isBlank c = true) ∧ cs = front ++ (piece ++ rest) := by
  constructor
  · intro h
    have hstart : trim cs <+: trimStart cs := List.rdropWhile_prefix isBlank (trimStart cs)
    obtain ⟨rest, hrest⟩ := h.trans hstart
    refine ⟨cs.takeWhile isBlank, rest, fun _ => List.mem_takeWhile_imp, ?_⟩
    rw [hrest]
    exact List.takeWhile_append_dropWhile.symm
  · rintro ⟨front, rest, hfront, rfl⟩
    obtain ⟨c, piece, rfl⟩ := List.exists_cons_of_ne_nil hne
    have hc : ¬ isBlank c = true := by simp [hpiece c (by simp)]
    have hstart : trimStart (front ++ (c :: piece ++ rest)) = c :: piece ++ rest := by
      rw [trimStart, List.dropWhile_append_of_pos hfront]
      exact List.dropWhile_cons_of_neg hc
    rw [trim, hstart]
    exact prefix_rdropWhile hpiece rest

/-! ### Blanks at the ends -/

lemma trimEnd_append_blank {cs blanks : List Char} (h : ∀ c ∈ blanks, isBlank c = true) :
    trimEnd (cs ++ blanks) = trimEnd cs := by
  change List.rdropWhile isBlank (cs ++ blanks) = List.rdropWhile isBlank cs
  induction blanks using List.reverseRecOn with
  | nil => rw [List.append_nil]
  | append_singleton blanks c ih =>
    rw [← List.append_assoc, List.rdropWhile_concat_pos _ _ _ (h c (by simp))]
    exact ih fun x hx => h x (by simp [hx])

lemma trimStart_append_blank {blanks : List Char} (h : ∀ c ∈ blanks, isBlank c = true)
    (cs : List Char) : trimStart (blanks ++ cs) = trimStart cs :=
  List.dropWhile_append_of_pos h

lemma trim_blank_append {blanks : List Char} (h : ∀ c ∈ blanks, isBlank c = true)
    (cs : List Char) : trim (blanks ++ cs) = trim cs := by
  rw [trim, trimStart_append_blank h, trim]

lemma trim_append_blank {blanks : List Char} (h : ∀ c ∈ blanks, isBlank c = true)
    (cs : List Char) : trim (cs ++ blanks) = trim cs := by
  by_cases hcs : ∀ c ∈ cs, isBlank c = true
  · rw [trim_eq_nil_iff.mpr hcs, trim_eq_nil_iff]
    exact List.forall_mem_append.mpr ⟨hcs, h⟩
  · have hne : (cs.dropWhile isBlank).isEmpty = false := by
      rw [List.isEmpty_eq_false_iff, Ne, List.dropWhile_eq_nil_iff]
      exact hcs
    have hstart : trimStart (cs ++ blanks) = trimStart cs ++ blanks := by
      rw [trimStart, List.dropWhile_append, hne]
      rfl
    rw [trim, hstart, trimEnd_append_blank h, trim]

/-- There is nothing to trim if the first and the last character are not blank. -/
lemma trim_eq_self_iff {cs : List Char} : trim cs = cs ↔
    (∀ c ∈ cs.head?, isBlank c = false) ∧ ∀ c ∈ cs.getLast?, isBlank c = false := by
  have hstart : trimStart cs = cs ↔ ∀ c ∈ cs.head?, isBlank c = false := by
    cases cs with
    | nil => simp [trimStart]
    | cons c cs => simp [trimStart]
  have hend : trimEnd cs = cs ↔ ∀ c ∈ cs.getLast?, isBlank c = false := by
    change cs.rdropWhile isBlank = cs ↔ _
    rw [List.rdropWhile_eq_self_iff]
    cases cs using List.reverseRecOn <;> simp
  rw [← hstart, ← hend]
  constructor
  · intro h
    have hcs : trimStart cs = cs := by
      rw [← h]
      exact trimStart_trim cs
    rw [trim, hcs] at h
    exact ⟨hcs, h⟩
  · rintro ⟨hcs, h⟩
    rw [trim, hcs, h]

lemma trim_eq_self {cs : List Char} (h : ∀ c ∈ cs, isBlank c = false) : trim cs = cs :=
  trim_eq_self_iff.mpr ⟨fun c hc => h c (List.mem_of_mem_head? hc),
    fun c hc => h c (List.mem_of_getLast? hc)⟩

/-- A text is its trimmed text between blanks. -/
lemma exists_trim_between (cs : List Char) :
    ∃ front back, cs = front ++ trim cs ++ back ∧ (∀ c ∈ front, isBlank c = true) ∧
      ∀ c ∈ back, isBlank c = true := by
  refine ⟨cs.takeWhile isBlank, (trimStart cs).rtakeWhile isBlank, ?_,
    fun _ => List.mem_takeWhile_imp, fun _ => List.mem_rtakeWhile_imp⟩
  have hend : trim cs ++ (trimStart cs).rtakeWhile isBlank = trimStart cs :=
    List.rdropWhile_append_rtakeWhile
  rw [List.append_assoc, hend]
  exact List.takeWhile_append_dropWhile.symm

/-! ### Trimmed pieces -/

lemma splitOn_append_cons {x : Char} (cs cs' : List Char) :
    (cs ++ x :: cs').splitOn x = cs.splitOn x ++ cs'.splitOn x :=
  List.splitOnP_append_cons cs cs' (beq_self_eq_true x)

lemma splitOn_of_notMem {x : Char} {cs : List Char} (h : x ∉ cs) : cs.splitOn x = [cs] :=
  List.splitOnP_eq_singleton fun _ hc => beq_eq_false_iff_ne.mpr fun hcx => h (hcx ▸ hc)

lemma map_trim_splitOn_append_blank {x : Char} (hx : isBlank x = false) {blanks : List Char}
    (h : ∀ c ∈ blanks, isBlank c = true) (cs : List Char) :
    ((cs ++ blanks).splitOn x).map trim = (cs.splitOn x).map trim := by
  have hblanks : x ∉ blanks := fun hmem => by simp [h x hmem] at hx
  by_cases hcs : x ∈ cs
  · obtain ⟨before, after, hsplit⟩ := List.append_of_mem hcs
    have hafter := map_trim_splitOn_append_blank hx h after
    rw [hsplit, List.append_assoc, List.cons_append, splitOn_append_cons, splitOn_append_cons,
      List.map_append, List.map_append, hafter]
  · have happend : x ∉ cs ++ blanks := by simp [hcs, hblanks]
    rw [splitOn_of_notMem happend, splitOn_of_notMem hcs, List.map_singleton, List.map_singleton,
      trim_append_blank h]
termination_by cs.length
decreasing_by
  rw [hsplit, List.length_append, List.length_cons]
  omega

lemma map_trim_splitOn_blank_append {x : Char} (hx : isBlank x = false) {blanks : List Char}
    (h : ∀ c ∈ blanks, isBlank c = true) (cs : List Char) :
    ((blanks ++ cs).splitOn x).map trim = (cs.splitOn x).map trim := by
  have hblanks : x ∉ blanks := fun hmem => by simp [h x hmem] at hx
  have hunsplit (piece : List Char) (hpiece : x ∉ piece) :
      ((blanks ++ piece).splitOn x).map trim = (piece.splitOn x).map trim := by
    have happend : x ∉ blanks ++ piece := by simp [hpiece, hblanks]
    rw [splitOn_of_notMem happend, splitOn_of_notMem hpiece, List.map_singleton,
      List.map_singleton, trim_blank_append h]
  by_cases hcs : x ∈ cs
  · obtain ⟨before, after, rfl, hbefore⟩ := List.eq_append_cons_of_mem hcs
    rw [← List.append_assoc, splitOn_append_cons, splitOn_append_cons, List.map_append,
      hunsplit before hbefore, List.map_append]
  · exact hunsplit cs hcs

/-- Where pieces are trimmed, blanks at the ends of the whole text make no difference. -/
lemma map_trim_splitOn_trim {x : Char} (hx : isBlank x = false) (cs : List Char) :
    ((trim cs).splitOn x).map trim = (cs.splitOn x).map trim := by
  obtain ⟨front, back, hcs, hfront, hback⟩ := exists_trim_between cs
  conv_rhs => rw [hcs]
  rw [map_trim_splitOn_append_blank hx hback, map_trim_splitOn_blank_append hx hfront]

end QueryLoom.Text

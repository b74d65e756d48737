import Mathlib.Data.List.DropRight
import QueryLoom.Text.Trim

/-!
# Words of a text

The words of a text are what its blanks separate. Texts that are put together keep their words,
unless the last word of one meets the first word of the other: these two then become one.
-/

namespace QueryLoom.Text

/-! ### Words of texts -/

/-- The words of a text. -/
def spacedWords (cs : List Char) : List (List Char) :=
  (cs.splitOnP isBlank).filter fun w => !w.isEmpty

/-- The words of a text with one space between them. -/
def collapsed (s : String) : String := String.ofList ([' '].intercalate (spacedWords s.toList))

/-- The text begins within a word. -/
def BeginsInWord (cs : List Char) : Prop := ∃ c ∈ cs.head?, isBlank c = false

/-- The text ends within a word. -/
def EndsInWord (cs : List Char) : Prop := ∃ c ∈ cs.getLast?, isBlank c = false

/-- A word of one text meets a word of the other. -/
def Abut (cs cs' : List Char) : Prop := EndsInWord cs ∧ BeginsInWord cs'

variable {c : Char} {cs cs' : List Char}

lemma spacedWords_append_cons_of_blank (h : isBlank c = true) (cs cs' : List Char) :
    spacedWords (cs ++ c :: cs') = spacedWords cs ++ spacedWords cs' := by
  rw [spacedWords, List.splitOnP_append_cons cs cs' h, List.filter_append, spacedWords, spacedWords]

@[simp] lemma spacedWords_nil : spacedWords [] = [] := by simp [spacedWords, List.splitOnP_nil]

lemma spacedWords_cons_of_blank (h : isBlank c = true) (cs : List Char) :
    spacedWords (c :: cs) = spacedWords cs := by
  simpa using spacedWords_append_cons_of_blank h [] cs

lemma spacedWords_of_blank (h : ∀ c ∈ cs, isBlank c = true) : spacedWords cs = [] := by
  induction cs with
  | nil => exact spacedWords_nil
  | cons c cs ih =>
    rw [spacedWords_cons_of_blank (h c List.mem_cons_self)]
    exact ih fun d hd => h d (List.mem_cons_of_mem c hd)

/-- A text without blanks is one word. -/
lemma spacedWords_of_unbroken (hne : cs ≠ []) (h : ∀ c ∈ cs, isBlank c = false) :
    spacedWords cs = [cs] := by
  rw [spacedWords, List.splitOnP_eq_singleton h]
  simp [hne]

/-! ### Where words begin and end -/

lemma not_beginsInWord_nil : ¬ BeginsInWord [] := by simp [BeginsInWord]

lemma beginsInWord_append (h : cs ≠ []) : BeginsInWord (cs ++ cs') ↔ BeginsInWord cs := by
  rw [BeginsInWord, BeginsInWord, List.head?_append_of_ne_nil _ h]

lemma EndsInWord.not_blank (h : EndsInWord cs) : ¬ ∀ c ∈ cs, isBlank c = true := by
  obtain ⟨c, hc, hink⟩ := h
  intro hblank
  rw [hblank c (List.mem_of_getLast? hc)] at hink
  exact absurd hink (by decide)

lemma BeginsInWord.not_blank (h : BeginsInWord cs) : ¬ ∀ c ∈ cs, isBlank c = true := by
  obtain ⟨c, hc, hink⟩ := h
  intro hblank
  rw [hblank c (List.mem_of_head? hc)] at hink
  exact absurd hink (by decide)

/-- The word that a text begins with, and what follows it. -/
lemma BeginsInWord.exists_word (h : BeginsInWord cs) :
    ∃ w rest, cs = w ++ rest ∧ w ≠ [] ∧ (∀ c ∈ w, isBlank c = false) ∧ ¬ BeginsInWord rest := by
  refine ⟨cs.takeWhile (!isBlank ·), cs.dropWhile (!isBlank ·), ?_, ?_, ?_, ?_⟩
  · exact List.takeWhile_append_dropWhile.symm
  · obtain ⟨c, hc, hink⟩ := h
    obtain ⟨rest, rfl⟩ := List.head?_eq_some_iff.mp hc
    simp [hink]
  · intro c hc
    simpa using List.mem_takeWhile_imp hc
  · rintro ⟨c, hc, hink⟩
    have hhead := List.head?_dropWhile_not (!isBlank ·) cs
    rw [hc] at hhead
    simp [hink] at hhead

/-- The word that a text ends with, and what precedes it. -/
lemma EndsInWord.exists_word (h : EndsInWord cs) :
    ∃ front w, cs = front ++ w ∧ w ≠ [] ∧ (∀ c ∈ w, isBlank c = false) ∧ ¬ EndsInWord front := by
  have hrev : BeginsInWord cs.reverse := by
    rw [BeginsInWord, List.head?_reverse]
    exact h
  obtain ⟨w, rest, hcs, hne, hink, hrest⟩ := hrev.exists_word
  refine ⟨rest.reverse, w.reverse, ?_, by simpa using hne, by simpa using hink, ?_⟩
  · rw [← List.reverse_append, ← hcs, List.reverse_reverse]
  · rw [EndsInWord, List.getLast?_reverse]
    exact hrest

/-! ### Texts put together -/

/-- Texts that do not meet inside a word keep their words. -/
lemma spacedWords_append (h : ¬ Abut cs cs') :
    spacedWords (cs ++ cs') = spacedWords cs ++ spacedWords cs' := by
  rcases List.eq_nil_or_concat cs with rfl | ⟨front, c, rfl⟩
  · simp
  cases hc : isBlank c with
  | true =>
    rw [List.concat_eq_append, List.append_assoc, List.singleton_append,
      spacedWords_append_cons_of_blank hc, spacedWords_append_cons_of_blank hc, spacedWords_nil,
      List.append_nil]
  | false =>
    cases cs' with
    | nil => simp
    | cons d cs' =>
      have hd : isBlank d = true := by
        by_contra hd
        exact h ⟨by simpa [EndsInWord] using hc, by simpa [BeginsInWord] using hd⟩
      rw [spacedWords_append_cons_of_blank hd, spacedWords_cons_of_blank hd]

/-- Where texts meet inside a word, the last word of one and the first word of the other become one
word. -/
lemma spacedWords_append_of_abut (h : Abut cs cs') :
    ∃ front v w back, spacedWords cs = front ++ [v] ∧ spacedWords cs' = w :: back ∧
      spacedWords (cs ++ cs') = front ++ (v ++ w) :: back := by
  obtain ⟨hend, hbegin⟩ := h
  obtain ⟨front, v, rfl, hv, hvink, hfront⟩ := hend.exists_word
  obtain ⟨w, back, rfl, hw, hwink, hback⟩ := hbegin.exists_word
  have hvw : ∀ c ∈ v ++ w, isBlank c = false := by
    simpa [or_imp, forall_and] using ⟨hvink, hwink⟩
  refine ⟨spacedWords front, v, w, spacedWords back, ?_, ?_, ?_⟩
  · rw [spacedWords_append fun h => hfront h.1, spacedWords_of_unbroken hv hvink]
  · rw [spacedWords_append fun h => hback h.2, spacedWords_of_unbroken hw hwink]
    rfl
  · have hassoc : front ++ v ++ (w ++ back) = front ++ ((v ++ w) ++ back) := by simp
    rw [hassoc, spacedWords_append fun h => hfront h.1, spacedWords_append fun h => hback h.2,
      spacedWords_of_unbroken (by simp [hv]) hvw]
    rfl

/-- Behind another text, two texts have the same words exactly if they have them alone, and that
text does not meet a word of the first one only. Neither does the first one win words there. -/
lemma spacedWords_append_compare (cs : List Char) {less more : List Char}
    (hle : (spacedWords less).length ≤ (spacedWords more).length)
    (hbegins : BeginsInWord more → BeginsInWord less) :
    (spacedWords (cs ++ less)).length ≤ (spacedWords (cs ++ more)).length ∧
      (spacedWords (cs ++ less) = spacedWords (cs ++ more) ↔
        spacedWords less = spacedWords more ∧ ¬ (Abut cs less ∧ ¬ Abut cs more)) := by
  by_cases hless : Abut cs less
  · obtain ⟨front, v, w, back, hcs, hback, happend⟩ := spacedWords_append_of_abut hless
    by_cases hmore : Abut cs more
    · obtain ⟨front', v', w', back', hcs', hback', happend'⟩ := spacedWords_append_of_abut hmore
      obtain ⟨rfl, hv⟩ := List.append_inj' (hcs.symm.trans hcs') rfl
      obtain rfl : v = v' := by simpa using hv
      rw [happend, happend', hback, hback']
      rw [hback, hback'] at hle
      exact ⟨by simpa using hle, by simp [hmore]⟩
    · rw [happend, spacedWords_append hmore, hcs]
      rw [hback] at hle
      have hfewer : (front ++ (v ++ w) :: back).length
          < (front ++ [v] ++ spacedWords more).length := by
        simp only [List.length_append, List.length_cons, List.length_nil] at hle ⊢
        omega
      refine ⟨hfewer.le, fun h => absurd (congrArg List.length h) hfewer.ne, fun h => ?_⟩
      exact absurd ⟨hless, hmore⟩ h.2
  · have hmore : ¬ Abut cs more := fun h => hless ⟨h.1, hbegins h.2⟩
    rw [spacedWords_append hless, spacedWords_append hmore, List.append_cancel_left_eq]
    simp [hless, hle]

/-! ### Texts with single spaces -/

/-- Words are not empty, and no blank is in them. -/
lemma mem_spacedWords {w : List Char} (h : w ∈ spacedWords cs) :
    w ≠ [] ∧ ∀ c ∈ w, isBlank c = false := by
  -- On the length: what is taken off in front is a whole word.
  induction hn : cs.length using Nat.strong_induction_on generalizing cs with
  | _ n ih =>
    subst hn
    by_cases hbegin : BeginsInWord cs
    · obtain ⟨v, rest, rfl, hv, hink, hrest⟩ := hbegin.exists_word
      rw [spacedWords_append fun habut => hrest habut.2, spacedWords_of_unbroken hv hink,
        List.singleton_append] at h
      rcases List.mem_cons.mp h with rfl | h
      · exact ⟨hv, hink⟩
      · exact ih rest.length (by simpa using List.length_pos_iff.mpr hv) h rfl
    · cases cs with
      | nil => simp at h
      | cons c cs =>
        have hc : isBlank c = true := by simpa [BeginsInWord] using hbegin
        rw [spacedWords_cons_of_blank hc] at h
        exact ih cs.length (by simp) h rfl

lemma spacedWords_intercalate {ws : List (List Char)}
    (h : ∀ w ∈ ws, w ≠ [] ∧ ∀ c ∈ w, isBlank c = false) :
    spacedWords ([' '].intercalate ws) = ws := by
  have hspace : isBlank ' ' = true := by decide
  induction ws with
  | nil => exact spacedWords_nil
  | cons w ws ih =>
    obtain ⟨hne, hink⟩ := h w List.mem_cons_self
    have hrest := ih fun v hv => h v (List.mem_cons_of_mem w hv)
    cases ws with
    | nil => rw [List.intercalate_singleton, spacedWords_of_unbroken hne hink]
    | cons v vs =>
      rw [List.intercalate_cons_cons, List.append_assoc, List.singleton_append,
        spacedWords_append_cons_of_blank hspace, spacedWords_of_unbroken hne hink, hrest]
      rfl

lemma spacedWords_collapsed (s : String) :
    spacedWords (collapsed s).toList = spacedWords s.toList := by
  rw [collapsed, String.toList_ofList]
  exact spacedWords_intercalate fun w hw => mem_spacedWords hw

/-- Texts are the same up to blanks exactly if they have the same words. -/
lemma collapsed_eq_iff {s t : String} :
    collapsed s = collapsed t ↔ spacedWords s.toList = spacedWords t.toList := by
  refine ⟨fun h => ?_, fun h => by rw [collapsed, collapsed, h]⟩
  rw [← spacedWords_collapsed s, h, spacedWords_collapsed]

end QueryLoom.Text

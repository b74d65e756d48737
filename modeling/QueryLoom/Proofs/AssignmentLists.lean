import Mathlib.Data.List.Chain
import QueryLoom.Proofs.OwnFragments
import QueryLoom.Proofs.QuietText
import QueryLoom.Proofs.QuotedText

/-!
# Commas between assignments

An assignment list is put together from parts that may bring commas of their own. Runs of commas
and blanks are shortened, and a comma at either end goes. What is left has single commas between
its assignments, except where a run is two commas and nothing more behind its blanks.
-/

namespace QueryLoom.Markup

open Text (isBlank isBlank_of_trimStart trimStart)

/-! ### Stray commas -/

/-- A character of an assignment: neither a comma nor a blank. -/
def isInk (c : Char) : Bool := !isCommaOrBlank c

/-- The text without its blanks. -/
def unspaced (cs : List Char) : List Char := cs.filter fun c => !isBlank c

/-- No comma follows a comma. -/
def CommasApart (cs : List Char) : Prop := cs.IsChain fun a b => a = ',' → b ≠ ','

/-- Blanks aside, no comma stands in front, at the end, or next to another one. -/
structure Tidy (cs : List Char) : Prop where
  head : (unspaced cs).head? ≠ some ','
  last : (unspaced cs).getLast? ≠ some ','
  apart : CommasApart (unspaced cs)

/-- The text without a comma in front. -/
def withoutFirst (cs : List Char) : List Char := if cs.head? = some ',' then cs.tail else cs

/-- The text without a comma at the end. -/
def withoutLast (cs : List Char) : List Char :=
  if cs.getLast? = some ',' then cs.dropLast else cs

/-- The runs of commas and blanks, before, between and after the other characters. -/
def gaps (cs : List Char) : List (List Char) := cs.splitOnP isInk

/-- One of the runs is two commas, up to blanks in front of them. -/
def HasPair (cs : List Char) : Prop := ∃ gap ∈ gaps cs, trimStart gap = [',', ',']

variable {c : Char} {cs : List Char}

lemma isInk_eq_true : isInk c = true ↔ c ≠ ',' ∧ isBlank c = false := by
  simp [isInk, isCommaOrBlank]

lemma unspaced_append (cs cs' : List Char) :
    unspaced (cs ++ cs') = unspaced cs ++ unspaced cs' :=
  List.filter_append ..

lemma unspaced_cons_of_blank (h : isBlank c = true) : unspaced (c :: cs) = unspaced cs :=
  List.filter_cons_of_neg (by simp [h])

lemma unspaced_cons (h : isBlank c = false) : unspaced (c :: cs) = c :: unspaced cs :=
  List.filter_cons_of_pos (by simp [h])

lemma isBlank_comma : isBlank ',' = false := by decide

lemma unspaced_eq_nil : unspaced cs = [] ↔ ∀ c ∈ cs, isBlank c = true := by
  simp [unspaced, List.filter_eq_nil_iff]

/-! ### Runs of commas and blanks -/

lemma hasPair_gap (h : ∀ c ∈ cs, isCommaOrBlank c = true) :
    HasPair cs ↔ trimStart cs = [',', ','] := by
  have hgaps : gaps cs = [cs] := List.splitOnP_eq_singleton fun c hc => by simp [isInk, h c hc]
  simp [HasPair, hgaps]

/-- A run is over where another character stands. -/
lemma hasPair_gap_append {gap : List Char} (h : ∀ c ∈ gap, isCommaOrBlank c = true)
    (hc : isInk c = true) :
    HasPair (gap ++ c :: cs) ↔ trimStart gap = [',', ','] ∨ HasPair cs := by
  have hgaps : gaps (gap ++ c :: cs) = gap :: gaps cs :=
    List.splitOnP_append_cons_of_forall_mem (fun d hd => by simp [isInk, h d hd]) c hc cs
  simp [HasPair, hgaps]

lemma hasPair_cons (hc : c ≠ ',') : HasPair (c :: cs) ↔ HasPair cs := by
  cases hblank : isBlank c with
  | false =>
    have hink : isInk c = true := isInk_eq_true.mpr ⟨hc, hblank⟩
    have hpair := @hasPair_gap_append c cs [] (by simp) hink
    simpa [trimStart] using hpair
  | true =>
    have hink : isInk c = false := by simp [isInk, isCommaOrBlank, hblank]
    obtain ⟨gap, rest, hgaps⟩ := List.exists_cons_of_ne_nil (List.splitOnP_ne_nil isInk cs)
    have hcons : gaps (c :: cs) = (c :: gap) :: rest := by
      rw [gaps, List.splitOnP_cons_eq_if_modifyHead, hink, hgaps]
      rfl
    have htrim : trimStart (c :: gap) = trimStart gap := List.dropWhile_cons_of_pos hblank
    rw [HasPair, HasPair, hcons, gaps, hgaps]
    simp [htrim]

/-! ### Shortened runs -/

lemma trimStart_runText (more : List Char) :
    trimStart (',' :: more.reverse) = [',', ','] ↔ more = [','] := by
  rw [trimStart, List.dropWhile_cons_of_neg (by simp [isBlank_comma]), List.cons.injEq]
  simp [List.reverse_eq_iff]

/-- Of the runs that begin with a comma only two commas stay two. -/
lemma commasApart_finish {more : List Char} (h : ∀ c ∈ more, isCommaOrBlank c = true) :
    CommasApart (unspaced (collapseCommas.finish (some more))) ↔ more ≠ [','] := by
  rw [collapseCommas.finish]
  rcases more with _ | ⟨d, _ | ⟨e, more⟩⟩
  · simp [unspaced, CommasApart, isBlank_comma]
  · by_cases hd : d = ','
    · subst hd
      simp [unspaced, CommasApart, isBlank_comma]
    · have hblank : isBlank d = true := by simpa [isCommaOrBlank, hd] using h d
      simp [unspaced, CommasApart, isBlank_comma, hblank, hd]
  · have hnewline : isBlank '\n' = true := by decide
    simp [unspaced, CommasApart, isBlank_comma, hnewline]

lemma commasApart_append_cons {cs' : List Char} (hc : c ≠ ',') :
    CommasApart (cs ++ c :: cs') ↔ CommasApart cs ∧ CommasApart cs' := by
  have htail : CommasApart (c :: cs') ↔ CommasApart cs' := by
    rw [CommasApart, List.isChain_cons, CommasApart]
    exact and_iff_right fun _ _ hcomma => absurd hcomma hc
  rw [CommasApart, List.isChain_append]
  change CommasApart cs ∧ CommasApart (c :: cs') ∧ _ ↔ _
  rw [htail]
  refine and_congr_right fun _ => and_iff_left fun _ _ d hd _ => ?_
  rwa [← Option.some.inj hd]

lemma commasApart_unspaced_cons (hc : c ≠ ',') :
    CommasApart (unspaced (c :: cs)) ↔ CommasApart (unspaced cs) := by
  cases hblank : isBlank c with
  | true => rw [unspaced_cons_of_blank hblank]
  | false =>
    have hsplit := @commasApart_append_cons c [] (unspaced cs) hc
    rw [unspaced_cons hblank]
    simpa [CommasApart] using hsplit

/-- Once runs are shortened, commas stand apart exactly if no run was two commas. -/
lemma commasApart_collapseCommas {r : Option (List Char)}
    (hrun : ∀ more ∈ r, ∀ c ∈ more, isCommaOrBlank c = true) (cs : List Char) :
    CommasApart (unspaced (collapseCommas r cs)) ↔ ¬ HasPair (runText r ++ cs) := by
  -- What has been read of a run is carried along as `r`; a run ends with the text or at ink.
  induction cs generalizing r with
  | nil =>
    cases r with
    | none => simp [collapseCommas, collapseCommas.finish, runText, unspaced, CommasApart, HasPair,
        gaps, trimStart]
    | some more =>
      have hmore := hrun more rfl
      have hgap : ∀ c ∈ ',' :: more.reverse, isCommaOrBlank c = true := by
        simpa [isCommaOrBlank] using hmore
      rw [collapseCommas, commasApart_finish hmore, runText, List.append_nil, hasPair_gap hgap,
        trimStart_runText]
  | cons c cs ih =>
    cases r with
    | none =>
      rw [collapseCommas]
      split
      · next hc =>
        rw [beq_iff_eq.mp hc]
        exact ih (r := some []) (by simp)
      · next hc =>
        have hne : c ≠ ',' := by simpa using hc
        rw [commasApart_unspaced_cons hne, ih (r := none) (by simp)]
        exact not_congr (hasPair_cons hne).symm
    | some more =>
      have hmore := hrun more rfl
      rw [collapseCommas]
      split
      · next hc =>
        rw [ih (r := some (c :: more)) (by simpa [hc] using hmore)]
        simp [runText]
      · next hc =>
        have hink : isInk c = true := by simpa [isInk] using hc
        obtain ⟨hne, hblank⟩ := isInk_eq_true.mp hink
        have hgap : ∀ c ∈ ',' :: more.reverse, isCommaOrBlank c = true := by
          simpa [isCommaOrBlank] using hmore
        rw [unspaced_append, unspaced_cons hblank, commasApart_append_cons hne,
          commasApart_finish hmore, ih (r := none) (by simp)]
        change _ ↔ ¬ HasPair ((',' :: more.reverse) ++ c :: cs)
        rw [hasPair_gap_append hgap hink, trimStart_runText, not_or]
        rfl

/-! ### Commas at the ends -/

lemma unspaced_trimStart (cs : List Char) : unspaced (trimStart cs) = unspaced cs := by
  induction cs with
  | nil => rfl
  | cons c cs ih =>
    cases hblank : isBlank c with
    | true => rw [trimStart, List.dropWhile_cons_of_pos hblank, unspaced_cons_of_blank hblank, ← ih,
        trimStart]
    | false => rw [trimStart, List.dropWhile_cons_of_neg (by simp [hblank])]

/-- Blanks aside, a comma in front is dropped. -/
lemma unspaced_dropLeadingComma (cs : List Char) :
    unspaced (dropLeadingComma cs) = withoutFirst (unspaced cs) := by
  rw [← unspaced_trimStart cs, dropLeadingComma, withoutFirst]
  split
  · next rest htrim =>
    rw [htrim, unspaced_cons isBlank_comma]
    simp
  · next hother =>
    rw [if_neg, unspaced_trimStart]
    intro hhead
    cases htrim : trimStart cs with
    | nil => simp [htrim, unspaced] at hhead
    | cons c rest =>
      have hblank : isBlank c = false := isBlank_of_trimStart htrim
      rw [htrim, unspaced_cons hblank] at hhead
      exact hother rest (by rw [htrim, Option.some.inj hhead])

/-- Blanks aside, a comma at the end is dropped. -/
lemma unspaced_dropTrailingComma (cs : List Char) :
    unspaced (dropTrailingComma cs) = withoutLast (unspaced cs) := by
  rw [withoutLast]
  induction cs with
  | nil => rfl
  | cons c cs ih =>
    rw [dropTrailingComma]
    split
    · next h =>
      obtain ⟨rfl, hblank⟩ : c = ',' ∧ ∀ d ∈ cs, isBlank d = true := by simpa using h
      rw [unspaced_cons isBlank_comma, unspaced_eq_nil.mpr hblank]
      rfl
    · next h =>
      cases hblank : isBlank c with
      | true => rw [unspaced_cons_of_blank hblank, unspaced_cons_of_blank hblank, ih]
      | false =>
        rw [unspaced_cons hblank, unspaced_cons hblank, ih]
        cases hrest : unspaced cs with
        | nil =>
          have hc : c ≠ ',' := by
            rintro rfl
            exact h (by simpa using unspaced_eq_nil.mp hrest)
          simp [hc]
        | cons d ds => split_ifs <;> simp_all

/-- Blanks aside, tidying drops a comma at either end of the shortened text. -/
lemma unspaced_tidyAssignments (cs : List Char) :
    unspaced (tidyAssignments cs)
      = withoutLast (withoutFirst (unspaced (collapseCommas none cs))) := by
  rw [tidyAssignments, unspaced_dropTrailingComma, unspaced_dropLeadingComma]

/-- Where commas stand apart, no comma is in front once one has been dropped there. -/
lemma commasApart_withoutFirst (cs : List Char) :
    CommasApart (withoutFirst cs) ∧ (withoutFirst cs).head? ≠ some ',' ↔ CommasApart cs := by
  rw [withoutFirst]
  split
  · next hhead =>
    obtain ⟨rest, rfl⟩ := List.head?_eq_some_iff.mp hhead
    rw [List.tail_cons, CommasApart, CommasApart, List.isChain_cons, and_comm]
    refine and_congr_left' ⟨fun hne d hd _ hcomma => hne (hcomma ▸ hd), fun hall hcomma => ?_⟩
    exact hall ',' hcomma rfl rfl
  · next hhead => exact and_iff_left hhead

lemma commasApart_withoutLast (cs : List Char) :
    CommasApart (withoutLast cs) ∧ (withoutLast cs).getLast? ≠ some ',' ↔ CommasApart cs := by
  rw [withoutLast]
  split
  · next hlast =>
    obtain ⟨front, rfl⟩ := List.getLast?_eq_some_iff.mp hlast
    rw [List.dropLast_concat, CommasApart, CommasApart, List.isChain_append]
    refine and_congr_right fun _ => ⟨fun hne => ⟨List.isChain_singleton _, ?_⟩, fun h hcomma => ?_⟩
    · rintro d hd _ - rfl
      exact absurd hd hne
    · exact h.2 ',' hcomma ',' rfl rfl rfl
  · next hlast => exact and_iff_left hlast

lemma head?_withoutLast {a : Char} (ha : a ∈ cs) (hne : a ≠ ',') :
    (withoutLast cs).head? = cs.head? := by
  rw [withoutLast]
  split
  · next hlast =>
    obtain ⟨front, rfl⟩ := List.getLast?_eq_some_iff.mp hlast
    have hfront : a ∈ front := by simpa [hne] using ha
    rw [List.dropLast_concat, List.head?_append_of_ne_nil _ (List.ne_nil_of_mem hfront)]
  · rfl

/-! ### What is kept -/

lemma filter_isInk_unspaced (cs : List Char) : (unspaced cs).filter isInk = cs.filter isInk := by
  rw [unspaced, List.filter_filter]
  refine List.filter_congr fun c _ => ?_
  cases hblank : isBlank c <;> simp [isInk, isCommaOrBlank, hblank]

lemma filter_isInk_of_gap (h : ∀ c ∈ cs, isCommaOrBlank c = true) : cs.filter isInk = [] :=
  List.filter_eq_nil_iff.mpr fun c hc => by simp [isInk, h c hc]

lemma isCommaOrBlank_finish {more : List Char} (h : ∀ c ∈ more, isCommaOrBlank c = true) :
    ∀ c ∈ collapseCommas.finish (some more), isCommaOrBlank c = true := by
  have hcomma : isCommaOrBlank ',' = true := by decide
  have hnewline : isCommaOrBlank '\n' = true := by decide
  rw [collapseCommas.finish]
  split
  · simpa using ⟨hcomma, hnewline⟩
  · simpa [hcomma] using h

lemma filter_isInk_collapseCommas {r : Option (List Char)}
    (hrun : ∀ more ∈ r, ∀ c ∈ more, isCommaOrBlank c = true) (cs : List Char) :
    (collapseCommas r cs).filter isInk = cs.filter isInk := by
  induction cs generalizing r with
  | nil =>
    cases r with
    | none => rfl
    | some more => exact filter_isInk_of_gap (isCommaOrBlank_finish (hrun more rfl))
  | cons c cs ih =>
    cases r with
    | none =>
      rw [collapseCommas]
      split
      · next hc =>
        have hcomma : isInk ',' = false := by decide
        rw [ih (r := some []) (by simp), beq_iff_eq.mp hc]
        simp [hcomma]
      · rw [List.filter_cons, List.filter_cons, ih (r := none) (by simp)]
    | some more =>
      have hmore := hrun more rfl
      rw [collapseCommas]
      split
      · next hc =>
        rw [ih (r := some (c :: more)) (by simpa [hc] using hmore)]
        simp [isInk, hc]
      · rw [List.filter_append, filter_isInk_of_gap (isCommaOrBlank_finish hmore), List.nil_append,
          List.filter_cons, List.filter_cons, ih (r := none) (by simp)]

lemma filter_isInk_withoutFirst (cs : List Char) :
    (withoutFirst cs).filter isInk = cs.filter isInk := by
  rw [withoutFirst]
  split
  · next hhead =>
    obtain ⟨rest, rfl⟩ := List.head?_eq_some_iff.mp hhead
    rfl
  · rfl

lemma filter_isInk_withoutLast (cs : List Char) :
    (withoutLast cs).filter isInk = cs.filter isInk := by
  rw [withoutLast]
  split
  · next hlast =>
    obtain ⟨front, rfl⟩ := List.getLast?_eq_some_iff.mp hlast
    have hcomma : [','].filter isInk = [] := by decide
    rw [List.dropLast_concat, List.filter_append, hcomma, List.append_nil]
  · rfl

lemma filter_isInk_led (cs : List Char) :
    (withoutFirst (unspaced (collapseCommas none cs))).filter isInk = cs.filter isInk := by
  rw [filter_isInk_withoutFirst, filter_isInk_unspaced,
    filter_isInk_collapseCommas (r := none) (by simp)]

/-- Only commas and blanks are changed. -/
lemma filter_isInk_tidyAssignments (cs : List Char) :
    (tidyAssignments cs).filter isInk = cs.filter isInk := by
  rw [← filter_isInk_unspaced, unspaced_tidyAssignments, filter_isInk_withoutLast, filter_isInk_led]

/-- An assignment list with some assignment is tidy exactly if no run was two commas. -/
lemma tidy_tidyAssignments (hink : ∃ c ∈ cs, isInk c = true) :
    Tidy (tidyAssignments cs) ↔ ¬ HasPair cs := by
  -- A comma at the end is not the one in front: some assignment stands between them.
  obtain ⟨c, hc, hcink⟩ : ∃ c ∈ withoutFirst (unspaced (collapseCommas none cs)),
      isInk c = true := by
    obtain ⟨c, hc, hcink⟩ := hink
    have hmem := List.mem_filter.mpr ⟨hc, hcink⟩
    rw [← filter_isInk_led cs] at hmem
    exact ⟨c, List.mem_of_mem_filter hmem, hcink⟩
  have hhead := head?_withoutLast hc (isInk_eq_true.mp hcink).1
  have hlast := commasApart_withoutLast (withoutFirst (unspaced (collapseCommas none cs)))
  have hfirst := commasApart_withoutFirst (unspaced (collapseCommas none cs))
  rw [← unspaced_tidyAssignments] at hhead hlast
  rw [← hhead, commasApart_collapseCommas (r := none) (by simp), ← hlast] at hfirst
  change _ ↔ ¬ HasPair cs at hfirst
  rw [← hfirst]
  exact ⟨fun h => ⟨⟨h.apart, h.last⟩, h.head⟩, fun ⟨⟨hapart, hback⟩, hfront⟩ =>
    ⟨hfront, hback, hapart⟩⟩

/-! ### Assignment lists of documents -/

lemma run_assignments {σ : Type} {setting : Setting σ}
    {included : Render.Inclusion → Render σ String} {name : String} {attributes : Attributes}
    {children : List Node} (htag : Tag.ofName? name = some .assignments) {body : String}
    {s s' : Session σ} (hbody : (Render.nodes setting included children).run s = (.ok body, s')) :
    (Render.node setting included (.element name attributes children)).run s
      = (.ok (" SET " ++ String.ofList (tidyAssignments body.toList)), s') := by
  rw [Render.node, htag]
  change (Render.nodes setting included children >>=
    fun body => pure (" SET " ++ String.ofList (tidyAssignments body.toList))).run s = _
  rw [Render.run_bind, hbody]
  rfl

/-- The assignment list written for a body with some assignment in it keeps everything but commas
and blanks. It has no stray comma exactly if no run of commas and blanks in the body was two commas
behind its blanks. -/
theorem assignments_tidy_iff {σ : Type} (setting : Setting σ)
    (included : Render.Inclusion → Render σ String) {name : String} (attributes : Attributes)
    (children : List Node) (htag : Tag.ofName? name = some .assignments) {body : String}
    {s s' : Session σ} (hbody : (Render.nodes setting included children).run s = (.ok body, s'))
    (hink : ∃ c ∈ body.toList, isInk c = true) :
    ∃ text : String,
      (Render.node setting included (.element name attributes children)).run s
        = (.ok (" SET " ++ text), s') ∧
      text.toList.filter isInk = body.toList.filter isInk ∧
      (Tidy text.toList ↔ ¬ HasPair body.toList) := by
  refine ⟨_, run_assignments htag hbody, ?_, ?_⟩
  · rw [String.toList_ofList]
    exact filter_isInk_tidyAssignments body.toList
  · rw [String.toList_ofList]
    exact tidy_tidyAssignments hink

/-- Commas with a blank between them are collapsed, and those at the ends are dropped. -/
theorem assignments_tidy_of_spaced_commas :
    ∃ text : String,
      (Render.node (Setting.plain [] (fun _ => none) .mysql) (fun _ => pure "")
        (.element "set" [] [.text ",a = 1, ,b = 2,"])).run ⟨Scope.ofBag (.object []), (), []⟩
          = (.ok (" SET " ++ text), ⟨Scope.ofBag (.object []), (), []⟩) ∧
      Tidy text.toList := by
  have hunmarked : Unmarked ",a = 1, ,b = 2," := by
    have hall : Segment.all ",a = 1, ,b = 2,".toList
        = ",a = 1, ,b = 2,".toList.map .plain := by cbv
    rw [Unmarked, hall]
    intro segment hsegment
    obtain ⟨c, -, rfl⟩ := List.mem_map.mp hsegment
    exact ⟨c, rfl⟩
  have hapart : ¬ HasPair ",a = 1, ,b = 2,".toList := by
    have hgaps : gaps ",a = 1, ,b = 2,".toList
        = [[','], [' '], [' '], [',', ' ', ','], [' '], [' '], [',']] := by decide +kernel
    rw [HasPair, hgaps]
    decide
  -- The session plays no part, and must not be unfolded.
  generalize (⟨Scope.ofBag (.object []), (), []⟩ : Session Unit) = s
  obtain ⟨text, hrun, -, htidy⟩ := assignments_tidy_iff (Setting.plain [] (fun _ => none) .mysql)
    (fun _ => pure "") [] [.text ",a = 1, ,b = 2,"] (by decide +kernel : Tag.ofName? "set" = _)
    (run_nodes_singleton (run_text (by decide) (substitute_of_unmarked hunmarked s.scope .mysql)))
    ⟨'a', by decide, by decide⟩
  exact ⟨text, hrun, htidy.mpr hapart⟩

/-- Two commas and nothing between them are left as they stand. -/
theorem comma_pair_left :
    HasPair "a = 1,,b = 2".toList ∧
      tidyAssignments "a = 1,,b = 2".toList = "a = 1,,b = 2".toList := by
  have hgaps : gaps "a = 1,,b = 2".toList = [[], [' '], [' '], [',', ','], [' '], [' '], []] := by
    decide +kernel
  refine ⟨?_, by decide +kernel⟩
  rw [HasPair, hgaps]
  decide

end QueryLoom.Markup

import QueryLoom.Proofs.LetterCase
import QueryLoom.Proofs.OwnFragments
import QueryLoom.Proofs.QuotedText
import QueryLoom.Template.Clause

/-!
# Where clauses

The conditions of a rendered body are what is left of it without the connectives at its ends. The
clause of a template and the element of a document look for them in different ways and find the
same in front. Where they do not give the clause for what they find is said exactly: the one gives a
bare `WHERE` for a lone connective, the other takes conditions without an ASCII letter for none.
-/

namespace QueryLoom.Clause

open Markup

/-! ### Conditions -/

/-- The words `and` and `or` in any case. -/
def IsConnective (word : List Char) : Prop := word.map Char.toLower ∈ connectives

instance (word : List Char) : Decidable (IsConnective word) :=
  inferInstanceAs (Decidable (word.map Char.toLower ∈ connectives))

/-- A connective stands in front of `rest` as a whole word. -/
def IsLed (cs rest : List Char) : Prop :=
  ∃ word, IsConnective word ∧ cs = word ++ rest ∧ rest.head?.any Text.isWordChar = false

/-- A connective stands behind `front` as a whole word, in a text that follows `before`. -/
def IsTrailed (before : Option Char) (cs front : List Char) : Prop :=
  ∃ word, IsConnective word ∧ cs = front ++ word ∧
    (front.getLast?.or before).any Text.isWordChar = false

/-- What is left of a body without blanks at its ends and without one connective in front. -/
inductive Unled (body : List Char) : List Char → Prop where
  | dropped {rest : List Char} (h : IsLed (Text.trim body) rest) : Unled body (Text.trim rest)
  | kept (h : ∀ rest, ¬ IsLed (Text.trim body) rest) : Unled body (Text.trim body)

/-- What is then left without one connective at the end, too. -/
inductive Bare (body : List Char) : List Char → Prop where
  | dropped {cs front : List Char} (hcs : Unled body cs) (h : IsTrailed none cs front) :
    Bare body (Text.trim front)
  | kept {cs : List Char} (hcs : Unled body cs) (h : ∀ front, ¬ IsTrailed none cs front) :
    Bare body cs

/-- The clause for conditions; there is none for no conditions. -/
def clause (cs : List Char) : List Char :=
  if cs = [] then [] else " WHERE ".toList ++ cs ++ [' ']

/-! ### Connectives -/

/-- The connectives are words of isolated ASCII letters. -/
lemma of_mem_connectives {word : List Char} (hword : word ∈ connectives) {t : Char}
    (ht : t ∈ word) : Text.Isolated t ∧ Text.isAsciiLetter t = true := by
  have hall : (connectives.all fun w => w.all fun t =>
      decide (Text.Isolated t ∧ Text.isAsciiLetter t = true)) = true := by decide +kernel
  exact of_decide_eq_true (List.all_eq_true.mp (List.all_eq_true.mp hall word hword) t ht)

lemma stripLead_connective {word : List Char} (hword : word ∈ connectives) {cs rest : List Char} :
    Text.stripLeadIgnoringCase? word cs = some rest ↔
      ∃ found, found.map Char.toLower = word ∧ cs = found ++ rest :=
  Text.stripLeadIgnoringCase?_eq_some fun _ ht => (of_mem_connectives hword ht).1

namespace IsConnective

variable {word word' : List Char}

lemma ne_nil (h : IsConnective word) : word ≠ [] := by
  rintro rfl
  simp [IsConnective, connectives] at h

lemma isWordChar (h : IsConnective word) {c : Char} (hc : c ∈ word) :
    Text.isWordChar c = true := by
  have hletter := (of_mem_connectives h (List.mem_map_of_mem hc)).2
  exact Text.isWordChar_of_isAsciiLetter (Text.isAsciiLetter_of_toLower hletter)

lemma isBoundary_head? (h : IsConnective word) (before : Option Char) (rest : List Char) :
    isBoundary before (word ++ rest).head? = !before.any Text.isWordChar := by
  cases word with
  | nil => exact absurd rfl h.ne_nil
  | cons c cs => simp [isBoundary, h.isWordChar List.mem_cons_self]

lemma isBoundary_getLast? (h : IsConnective word) (after : Option Char) :
    isBoundary word.getLast? after = !after.any Text.isWordChar := by
  have hlast := h.isWordChar (List.getLast_mem h.ne_nil)
  simp [isBoundary, List.getLast?_eq_getLast_of_ne_nil h.ne_nil, hlast]

/-- The first letter says which connective it is, and so does the last one. -/
lemma length_eq (h : IsConnective word) (h' : IsConnective word')
    (hend : word.head? = word'.head? ∨ word.getLast? = word'.getLast?) :
    word.length = word'.length := by
  have hwords : ∀ v ∈ connectives, ∀ v' ∈ connectives,
      v.head? = v'.head? ∨ v.getLast? = v'.getLast? → v = v' := by decide
  have hmap : word.map Char.toLower = word'.map Char.toLower := by
    refine hwords _ h _ h' ?_
    rw [List.head?_map, List.head?_map, List.getLast?_map, List.getLast?_map]
    exact hend.imp (congrArg _) (congrArg _)
  simpa using congrArg List.length hmap

end IsConnective

lemma IsLed.unique {cs rest rest' : List Char} (h : IsLed cs rest) (h' : IsLed cs rest') :
    rest = rest' := by
  obtain ⟨word, hword, rfl, -⟩ := h
  obtain ⟨word', hword', heq, -⟩ := h'
  have hhead := congrArg List.head? heq
  rw [List.head?_append_of_ne_nil _ hword.ne_nil, List.head?_append_of_ne_nil _ hword'.ne_nil]
    at hhead
  exact (List.append_inj heq (hword.length_eq hword' (.inl hhead))).2

lemma IsTrailed.unique {before : Option Char} {cs front front' : List Char}
    (h : IsTrailed before cs front) (h' : IsTrailed before cs front') : front = front' := by
  obtain ⟨word, hword, rfl, -⟩ := h
  obtain ⟨word', hword', heq, -⟩ := h'
  have hlast := congrArg List.getLast? heq
  rw [List.getLast?_append_of_ne_nil _ hword.ne_nil, List.getLast?_append_of_ne_nil _ hword'.ne_nil]
    at hlast
  exact (List.append_inj' heq (hword.length_eq hword' (.inr hlast))).1

lemma isTrailed_cons {before : Option Char} {c e : Char} {cs front : List Char} :
    IsTrailed before (c :: cs) (e :: front) ↔ e = c ∧ IsTrailed (some c) cs front := by
  have hlast : ((c :: front).getLast?.or before) = front.getLast?.or (some c) := by
    rw [List.getLast?_cons]
    cases front.getLast? <;> rfl
  constructor
  · rintro ⟨word, hword, heq, hgap⟩
    obtain ⟨rfl, hcs⟩ := List.cons.inj heq
    exact ⟨rfl, word, hword, hcs, hlast ▸ hgap⟩
  · rintro ⟨rfl, word, hword, rfl, hgap⟩
    exact ⟨word, hword, rfl, hlast.symm ▸ hgap⟩

/-! ### Removing connectives -/

lemma wordEnds_eq (cs : List Char) : wordEnds cs = !cs.head?.any Text.isWordChar := by
  cases cs <;> rfl

lemma filter_stripLead_eq_some {word : List Char} (hword : word ∈ connectives)
    {cs rest : List Char} :
    (Text.stripLeadIgnoringCase? word cs).filter wordEnds = some rest ↔
      ∃ found, found.map Char.toLower = word ∧ cs = found ++ rest ∧
        rest.head?.any Text.isWordChar = false := by
  rw [Option.filter_eq_some_iff, wordEnds_eq, Bool.not_eq_true', stripLead_connective hword]
  constructor
  · rintro ⟨⟨found, hfound, hcs⟩, hends⟩
    exact ⟨found, hfound, hcs, hends⟩
  · rintro ⟨found, hfound, hcs, hends⟩
    exact ⟨⟨found, hfound, hcs⟩, hends⟩

/-- A connective is removed as a whole word, so not right behind a word. -/
lemma strip?_connective (before : Option Char) {word : List Char} (hword : word ∈ connectives)
    (cs : List Char) :
    Overrides.strip? before word cs =
      if before.any Text.isWordChar then none
      else (Text.stripLeadIgnoringCase? word cs).filter wordEnds := by
  have hends : ∀ w ∈ connectives,
      w.head?.any Text.isAlphanumeric = true ∧ w.getLast?.any Text.isAlphanumeric = true := by
    decide
  obtain ⟨hhead, hlast⟩ := hends word hword
  obtain ⟨first, hfirst, hfirst'⟩ := (Option.any_eq_true _ _).mp hhead
  obtain ⟨last, hlast, hlast'⟩ := (Option.any_eq_true _ _).mp hlast
  rw [Overrides.strip?_eq before hfirst hlast]
  cases hlead : Text.stripLeadIgnoringCase? word cs with
  | none => simp
  | some rest =>
    obtain ⟨found, hfound, rfl⟩ := (stripLead_connective hword).mp hlead
    have hconnective : IsConnective found := by rwa [IsConnective, hfound]
    have htake : (found ++ rest).take word.length = found := by
      rw [← hfound, List.length_map, List.take_left]
    simp only [Option.bind_some, htake, hconnective.isBoundary_head?,
      hconnective.isBoundary_getLast?, hfirst', hlast', Bool.true_and, Bool.not_not,
      Option.filter_some, wordEnds_eq]
    cases rest.head?.any Text.isWordChar <;> rfl

lemma isLed_of_afterConnective? {cs rest : List Char}
    (h : afterConnective? wordEnds cs = some rest) : IsLed cs rest := by
  obtain ⟨word, hword, hrest⟩ := List.exists_of_findSome?_eq_some h
  obtain ⟨found, rfl, hcs, hends⟩ := (filter_stripLead_eq_some hword).mp hrest
  exact ⟨found, hword, hcs, hends⟩

lemma not_isLed_of_afterConnective? {cs : List Char} (h : afterConnective? wordEnds cs = none)
    (rest : List Char) : ¬ IsLed cs rest := by
  rintro ⟨found, hfound, hcs, hends⟩
  have hsome := (filter_stripLead_eq_some hfound).mpr ⟨found, rfl, hcs, hends⟩
  rw [List.findSome?_eq_none_iff.mp h _ hfound] at hsome
  cases hsome

/-- The two ways to remove a connective in front agree. -/
lemma dropLeading_connectives (cs : List Char) :
    Overrides.dropLeading connectives cs = (afterConnective? wordEnds cs).getD cs := by
  have hstrip : connectives.map (fun word => Overrides.strip? none word cs)
      = connectives.map fun word => (Text.stripLeadIgnoringCase? word cs).filter wordEnds :=
    List.map_congr_left fun word hword => strip?_connective none hword cs
  have hfind := congrArg (List.findSome? id) hstrip
  rw [List.findSome?_map, List.findSome?_map] at hfind
  exact congrArg (fun rest? : Option (List Char) => rest?.getD cs) hfind

/-- A text that does not end with a blank has no blanks behind it. -/
lemma eq_nil_of_blank {front rest : List Char}
    (hend : ∀ c ∈ (front ++ rest).getLast?, Text.isBlank c = false)
    (hblank : ∀ c ∈ rest, Text.isBlank c = true) : rest = [] := by
  by_contra hne
  have hlast : rest.getLast hne ∈ (front ++ rest).getLast? := by
    rw [List.getLast?_append_of_ne_nil front hne]
    exact List.getLast?_eq_getLast_of_ne_nil hne
  have hfree := hend _ hlast
  rw [hblank _ (List.getLast_mem hne)] at hfree
  cases hfree

lemma endsHere_connectives {before : Option Char} {cs : List Char}
    (hend : ∀ c ∈ cs.getLast?, Text.isBlank c = false) :
    Overrides.endsHere connectives before cs = true ↔ IsTrailed before cs [] := by
  constructor
  · intro h
    obtain ⟨word, hword, hrest⟩ := List.any_eq_true.mp h
    obtain ⟨rest, hstrip, hblank⟩ := (Option.any_eq_true _ _).mp hrest
    rw [strip?_connective before hword] at hstrip
    split at hstrip
    · cases hstrip
    · next hbefore =>
      obtain ⟨found, rfl, rfl, -⟩ := (filter_stripLead_eq_some hword).mp hstrip
      obtain rfl := eq_nil_of_blank hend (List.all_eq_true.mp hblank)
      exact ⟨found, hword, List.append_nil found, by simpa using hbefore⟩
  · rintro ⟨word, hword, hcs, hbefore⟩
    rw [List.nil_append] at hcs
    subst hcs
    have hstrip : Overrides.strip? before (cs.map Char.toLower) cs = some [] := by
      rw [strip?_connective before hword, if_neg (by simpa using hbefore)]
      exact (filter_stripLead_eq_some hword).mpr ⟨cs, rfl, (List.append_nil cs).symm, rfl⟩
    refine List.any_eq_true.mpr ⟨cs.map Char.toLower, hword, ?_⟩
    rw [hstrip]
    rfl

/-- Behind a text that does not end with a blank, a connective is removed as a whole word. -/
lemma dropTrailing_cases (before : Option Char) {cs : List Char}
    (hend : ∀ c ∈ cs.getLast?, Text.isBlank c = false) :
    IsTrailed before cs (Overrides.dropTrailing connectives before cs) ∨
      (∀ front, ¬ IsTrailed before cs front) ∧
        Overrides.dropTrailing connectives before cs = cs := by
  induction cs generalizing before with
  | nil =>
    refine .inr ⟨?_, rfl⟩
    rintro front ⟨word, hword, heq, -⟩
    exact hword.ne_nil (List.append_eq_nil_iff.mp heq.symm).2
  | cons c cs ih =>
    have hend' : ∀ e ∈ cs.getLast?, Text.isBlank e = false := by
      intro e he
      refine hend e ?_
      rw [List.getLast?_cons, he]
      rfl
    -- Whether a connective begins here depends on the character in front, hence on `before`.
    rw [Overrides.dropTrailing]
    split
    · next hends => exact .inl ((endsHere_connectives hend).mp hends)
    · next hends =>
      refine (ih (some c) hend').imp (fun h => isTrailed_cons.mpr ⟨rfl, h⟩) ?_
      rintro ⟨hnone, heq⟩
      refine ⟨?_, by rw [heq]⟩
      intro front hfront
      cases front with
      | nil => exact hends ((endsHere_connectives hend).mpr hfront)
      | cons e front => exact hnone front (isTrailed_cons.mp hfront).2

lemma dropTrailing_nil (before : Option Char) (cs : List Char) :
    Overrides.dropTrailing [] before cs = cs := by
  induction cs generalizing before with
  | nil => rfl
  | cons c cs ih =>
    rw [Overrides.dropTrailing, if_neg (by simp [Overrides.endsHere]), ih]

/-! ### Conditions that are left -/

lemma isBlank_getLast?_trim (cs : List Char) :
    ∀ c ∈ (Text.trim cs).getLast?, Text.isBlank c = false := by
  intro c hc
  obtain ⟨hne, rfl⟩ := List.mem_getLast?_eq_getLast hc
  exact Bool.eq_false_iff.mpr (List.rdropWhile_last_not Text.isBlank (Text.trimStart cs) hne)

/-- Conditions without a connective in front, as a template finds them. -/
lemma unled_iff {body cs : List Char} :
    Unled body cs ↔
      cs = Text.trim ((afterConnective? wordEnds (Text.trim body)).getD (Text.trim body)) := by
  cases h : afterConnective? wordEnds (Text.trim body) with
  | none =>
    have hkept := not_isLed_of_afterConnective? h
    constructor
    · rintro (hled | -)
      · exact absurd hled (hkept _)
      · exact (Text.trim_trim body).symm
    · rintro rfl
      rw [Option.getD_none, Text.trim_trim]
      exact .kept hkept
  | some rest =>
    have hdropped := isLed_of_afterConnective? h
    constructor
    · rintro (hled | hkept)
      · rw [hled.unique hdropped, Option.getD_some]
      · exact absurd hdropped (hkept rest)
    · rintro rfl
      exact .dropped hdropped

lemma Unled.trim_eq {body cs : List Char} (h : Unled body cs) : Text.trim cs = cs := by
  cases h with
  | dropped _ => exact Text.trim_trim _
  | kept _ => exact Text.trim_trim _

lemma Unled.unique {body cs cs' : List Char} (h : Unled body cs) (h' : Unled body cs') :
    cs = cs' :=
  (unled_iff.mp h).trans (unled_iff.mp h').symm

lemma strip_conditions {body cs : List Char} (h : Unled body cs) :
    Trimming.conditions.strip body =
      Text.trim (Overrides.dropTrailing connectives none cs) := by
  have hwords : Overrides.ofText "and|or" = connectives := by decide
  simp only [Trimming.strip, Trimming.conditions, hwords, dropLeading_connectives,
    dropTrailing_nil, if_true, Text.trim_trim, ← unled_iff.mp h]

/-- Conditions without a connective at either end, as a document finds them. -/
lemma bare_iff {body cs : List Char} : Bare body cs ↔ cs = Trimming.conditions.strip body := by
  obtain ⟨unled, hunled⟩ : ∃ unled, Unled body unled := ⟨_, unled_iff.mpr rfl⟩
  rw [strip_conditions hunled]
  have hend : ∀ c ∈ unled.getLast?, Text.isBlank c = false := by
    rw [← hunled.trim_eq]
    exact isBlank_getLast?_trim unled
  rcases dropTrailing_cases none hend with htrailed | ⟨hkept, heq⟩
  · constructor
    · rintro (⟨hcs, h⟩ | ⟨hcs, h⟩)
      · rw [hcs.unique hunled] at h
        rw [h.unique htrailed]
      · rw [hcs.unique hunled] at h
        exact absurd htrailed (h _)
    · rintro rfl
      exact .dropped hunled htrailed
  · rw [heq, hunled.trim_eq]
    constructor
    · rintro (⟨hcs, h⟩ | ⟨hcs, -⟩)
      · rw [hcs.unique hunled] at h
        exact absurd h (hkept _)
      · exact hcs.unique hunled
    · rintro rfl
      exact .kept hunled hkept

/-- Nothing is left of a body that is not blank exactly if it is a lone connective. -/
lemma Unled.eq_nil_iff {body cs : List Char} (h : Unled body cs) (hbody : Text.trim body ≠ []) :
    cs = [] ↔ IsConnective (Text.trim body) := by
  have hlone (hword : IsConnective (Text.trim body)) : IsLed (Text.trim body) [] :=
    ⟨_, hword, (List.append_nil _).symm, rfl⟩
  cases h with
  | @dropped rest hled =>
    constructor
    · intro hrest
      obtain ⟨word, hword, hcs, -⟩ := hled
      have hend := isBlank_getLast?_trim body
      rw [hcs] at hend ⊢
      obtain rfl := eq_nil_of_blank hend (Text.trim_eq_nil_iff.mp hrest)
      rwa [List.append_nil]
    · intro hword
      rw [hled.unique (hlone hword)]
      rfl
  | kept hkept => exact ⟨fun h => absurd h hbody, fun hword => absurd (hlone hword) (hkept [])⟩

/-! ### Clauses -/

lemma whereWrap_eq {body cs : List Char} (h : Unled body cs) :
    whereWrap body =
      if Text.trim body = [] then [] else " WHERE ".toList ++ cs ++ [' '] := by
  rw [unled_iff.mp h, whereWrap]
  cases Text.trim body <;> rfl

lemma whereWrap_eq_clause_iff {body cs : List Char} (h : Unled body cs) :
    whereWrap body = clause cs ↔ ¬ IsConnective (Text.trim body) := by
  rw [whereWrap_eq h, clause]
  by_cases hbody : Text.trim body = []
  · have hcs : cs = [] := by
      rw [unled_iff.mp h, hbody]
      rfl
    simp only [if_pos hbody, if_pos hcs, true_iff]
    exact fun hword => hword.ne_nil hbody
  · rw [← h.eq_nil_iff hbody, if_neg hbody]
    by_cases hcs : cs = [] <;> simp [hcs]

lemma toList_apply_conditions {body : String} {cs : List Char} (h : Bare body.toList cs) :
    (Trimming.conditions.apply body).toList =
      if cs.any Text.isAsciiLetter then " WHERE ".toList ++ cs ++ [' '] else [] := by
  rw [bare_iff.mp h, Trimming.apply]
  cases (Trimming.conditions.strip body.toList).any Text.isAsciiLetter with
  | false => rfl
  | true => simp [Trimming.conditions]

lemma ite_eq_clause_iff (cs : List Char) :
    (if cs.any Text.isAsciiLetter then " WHERE ".toList ++ cs ++ [' '] else []) = clause cs ↔
      cs = [] ∨ cs.any Text.isAsciiLetter = true := by
  rw [clause]
  cases cs with
  | nil => simp
  | cons c cs => cases (c :: cs).any Text.isAsciiLetter <;> simp

lemma run_conditions {σ : Type} {setting : Setting σ}
    {included : Render.Inclusion → Render σ String} {name : String} {attributes : Attributes}
    {children : List Node} (htag : Tag.ofName? name = some .conditions) {body : String}
    {s s' : Session σ} (hbody : (Render.nodes setting included children).run s = (.ok body, s')) :
    (Render.node setting included (.element name attributes children)).run s
      = (.ok (Trimming.conditions.apply body), s') := by
  rw [Render.node, htag]
  change (Render.nodes setting included children >>=
    fun body => pure (Trimming.conditions.apply body)).run s = _
  rw [Render.run_bind, hbody]
  rfl

/-- The clauses that a template and a document write for a rendered body. Each finds the conditions
in it, and there is one way to find them. The template writes the clause for them unless the body is
a lone connective, for which it writes a bare `WHERE`. The document writes the clause for them
unless they hold no ASCII letter; then they are lost. -/
theorem where_emitted (body : String) :
    (∃ cs, (∀ cs', Unled body.toList cs' ↔ cs' = cs) ∧
      whereWrap body.toList =
        (if Text.trim body.toList = [] then [] else " WHERE ".toList ++ cs ++ [' ']) ∧
      (whereWrap body.toList = clause cs ↔ ¬ IsConnective (Text.trim body.toList))) ∧
    ∃ cs, (∀ cs', Bare body.toList cs' ↔ cs' = cs) ∧
      ∀ {σ : Type} (setting : Setting σ) (included : Render.Inclusion → Render σ String)
        (name : String) (attributes : Attributes) (children : List Node) (s s' : Session σ),
        Tag.ofName? name = some .conditions →
        (Render.nodes setting included children).run s = (.ok body, s') →
        ∃ text,
          (Render.node setting included (.element name attributes children)).run s
            = (.ok text, s') ∧
          text.toList =
            (if cs.any Text.isAsciiLetter then " WHERE ".toList ++ cs ++ [' '] else []) ∧
          (text.toList = clause cs ↔ cs = [] ∨ cs.any Text.isAsciiLetter = true) := by
  obtain ⟨unled, hunled⟩ : ∃ cs, ∀ cs', Unled body.toList cs' ↔ cs' = cs :=
    ⟨_, fun _ => unled_iff⟩
  obtain ⟨bare, hbare⟩ : ∃ cs, ∀ cs', Bare body.toList cs' ↔ cs' = cs := ⟨_, fun _ => bare_iff⟩
  constructor
  · have h := (hunled unled).mpr rfl
    exact ⟨unled, hunled, whereWrap_eq h, whereWrap_eq_clause_iff h⟩
  · refine ⟨bare, hbare, ?_⟩
    intro σ setting included name attributes children s s' htag hbody
    have htext := toList_apply_conditions ((hbare bare).mpr rfl)
    refine ⟨_, run_conditions htag hbody, htext, ?_⟩
    rw [htext]
    exact ite_eq_clause_iff bare

/-- A condition between two connectives becomes the clause of the element. -/
theorem where_emitted_led_and_trailed :
    ((Render.node (Setting.plain [] (fun _ => none) .mysql) (fun _ => pure "")
      (.element "Where" [] [.text "or a = 1 AND"])).run ⟨Scope.ofBag (.object []), (), []⟩).1
        = .ok " WHERE a = 1 " := by
  have hunmarked : Unmarked "or a = 1 AND" := by
    have hall : Segment.all "or a = 1 AND".toList = "or a = 1 AND".toList.map .plain := by cbv
    rw [Unmarked, hall]
    intro segment hsegment
    obtain ⟨c, -, rfl⟩ := List.mem_map.mp hsegment
    exact ⟨c, rfl⟩
  have hled : IsLed (Text.trim "or a = 1 AND".toList) " a = 1 AND".toList :=
    ⟨"or".toList, by decide, by decide, by decide⟩
  have htrailed : IsTrailed none (Text.trim " a = 1 AND".toList) "a = 1 ".toList :=
    ⟨"AND".toList, by decide, by decide, by decide⟩
  -- The session plays no part, and must not be unfolded.
  generalize (⟨Scope.ofBag (.object []), (), []⟩ : Session Unit) = s
  obtain ⟨-, cs, hcs, hrun⟩ := where_emitted "or a = 1 AND"
  obtain ⟨text, htext, heq, -⟩ := hrun (Setting.plain [] (fun _ => none) .mysql)
    (fun _ => pure "") "Where" [] [.text "or a = 1 AND"] s s (by decide +kernel)
    (run_nodes_singleton (run_text (by decide) (substitute_of_unmarked hunmarked s.scope .mysql)))
  rw [← (hcs _).mp (.dropped (.dropped hled) htrailed)] at heq
  rw [htext, String.toList_inj.mp (heq.trans (by decide : _ = " WHERE a = 1 ".toList))]

/-- A lone connective gets a bare `WHERE`, and a condition without letters none at all. -/
theorem where_missed :
    (Unled "and".toList [] ∧ whereWrap "and".toList = " WHERE  ".toList) ∧
      Bare "1 = 0".toList "1 = 0".toList ∧ Trimming.conditions.apply "1 = 0" = "" := by
  have hled : IsLed (Text.trim "and".toList) [] := ⟨"and".toList, by decide, by decide, rfl⟩
  have hbare : Trimming.conditions.strip "1 = 0".toList = "1 = 0".toList := by decide +kernel
  exact ⟨⟨.dropped hled, by decide⟩, bare_iff.mpr hbare.symm, by decide +kernel⟩

end QueryLoom.Clause

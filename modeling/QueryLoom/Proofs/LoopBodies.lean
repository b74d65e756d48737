import QueryLoom.Proofs.MarkerPass
import QueryLoom.Proofs.OwnFragments
import QueryLoom.Proofs.QuotedText
import QueryLoom.Proofs.SpacedWords

/-!
# Bodies of loops

A loop renders its body once for each entry of a collection. Unlike other bodies, this one is put
together without the texts of nodes that are blank. That changes nothing but blanks, unless a word
stands on either side of such a text: then the two words become one.
-/

namespace QueryLoom.Markup

open Text
open Segment (toList_join_cons)

/-! ### Texts without the blank ones -/

/-- The texts that are not blank. -/
def inked (texts : List String) : List String := texts.filter fun t => !isBlankText t

/-- Nothing but blanks keeps a word of one text from meeting a word of another. -/
def Glues (texts : List String) : Prop :=
  ∃ front t gap u back, texts = front ++ t :: (gap ++ u :: back) ∧ Abut t.toList u.toList ∧
    (∀ g ∈ gap, isBlankText g = true) ∧ ∃ g ∈ gap, g ≠ ""

variable {t u : String} {ts gap back : List String}

lemma isBlankText_eq_true : isBlankText t = true ↔ ∀ c ∈ t.toList, isBlank c = true := by
  rw [isBlankText, List.all_eq_true]

lemma inked_cons_of_blank (h : isBlankText t = true) : inked (t :: ts) = inked ts :=
  List.filter_cons_of_neg (by simp [h])

lemma inked_cons (h : isBlankText t = false) : inked (t :: ts) = t :: inked ts :=
  List.filter_cons_of_pos (by simp [h])

lemma inked_of_blank (h : ∀ g ∈ gap, isBlankText g = true) (back : List String) :
    inked (gap ++ back) = inked back := by
  have hgap : gap.filter (fun t => !isBlankText t) = [] :=
    List.filter_eq_nil_iff.mpr fun g hg => by simp [h g hg]
  rw [inked, List.filter_append, hgap, List.nil_append, inked]

lemma BeginsInWord.isBlankText_eq_false (h : BeginsInWord t.toList) : isBlankText t = false := by
  rw [Bool.eq_false_iff]
  exact fun hblank => h.not_blank (isBlankText_eq_true.mp hblank)

lemma toList_ne_nil (h : isBlankText t = false) : t.toList ≠ [] := by
  intro hnil
  simp [isBlankText, hnil] at h

/-- Only blank texts make up a text without ink. -/
lemma join_inked_eq_empty : String.join (inked ts) = "" ↔ isBlankText (String.join ts) = true := by
  rw [← String.toList_eq_nil_iff, isBlankText_eq_true]
  induction ts with
  | nil => simp [inked]
  | cons t ts ih =>
    rw [toList_join_cons, List.forall_mem_append, ← isBlankText_eq_true, ← ih]
    cases hblank : isBlankText t with
    | true => rw [inked_cons_of_blank hblank]; simp
    | false =>
      rw [inked_cons hblank, toList_join_cons]
      simp [toList_ne_nil hblank]

/-! ### Where words meet -/

/-- Behind blank texts, a word begins the inked texts. -/
lemma beginsInWord_join_inked (hgap : ∀ g ∈ gap, isBlankText g = true)
    (hu : BeginsInWord u.toList) (back : List String) :
    BeginsInWord (String.join (inked (gap ++ u :: back))).toList := by
  have hink : isBlankText u = false := BeginsInWord.isBlankText_eq_false hu
  rw [inked_of_blank hgap, inked_cons hink, toList_join_cons]
  exact (beginsInWord_append (toList_ne_nil hink)).mpr hu

lemma exists_of_beginsInWord_join_inked (h : BeginsInWord (String.join (inked ts)).toList) :
    ∃ gap u back, ts = gap ++ u :: back ∧ (∀ g ∈ gap, isBlankText g = true) ∧
      BeginsInWord u.toList := by
  induction ts with
  | nil => exact absurd h not_beginsInWord_nil
  | cons t ts ih =>
    cases hblank : isBlankText t with
    | true =>
      rw [inked_cons_of_blank hblank] at h
      obtain ⟨gap, u, back, rfl, hgap, hu⟩ := ih h
      exact ⟨t :: gap, u, back, rfl, List.forall_mem_cons.mpr ⟨hblank, hgap⟩, hu⟩
    | false =>
      rw [inked_cons hblank, toList_join_cons, beginsInWord_append (toList_ne_nil hblank)] at h
      exact ⟨[], t, ts, rfl, by simp, h⟩

/-- Behind blank texts, a word begins all the texts only if those are empty. -/
lemma beginsInWord_join_iff (hgap : ∀ g ∈ gap, isBlankText g = true)
    (hu : BeginsInWord u.toList) (back : List String) :
    BeginsInWord (String.join (gap ++ u :: back)).toList ↔ ∀ g ∈ gap, g = "" := by
  induction gap with
  | nil =>
    rw [List.nil_append, toList_join_cons]
    have hne := toList_ne_nil (BeginsInWord.isBlankText_eq_false hu)
    simpa using (beginsInWord_append hne).mpr hu
  | cons g gap ih =>
    obtain ⟨hg, hgap⟩ := List.forall_mem_cons.mp hgap
    rw [List.cons_append, toList_join_cons, List.forall_mem_cons, ← ih hgap]
    by_cases hempty : g = ""
    · simp [hempty]
    · have hne : g.toList ≠ [] := by simpa using hempty
      rw [beginsInWord_append hne]
      simp only [hempty, false_and, iff_false]
      exact fun hbegin => hbegin.not_blank (isBlankText_eq_true.mp hg)

lemma beginsInWord_join_inked_of_join (h : BeginsInWord (String.join ts).toList) :
    BeginsInWord (String.join (inked ts)).toList := by
  induction ts with
  | nil => exact h
  | cons t ts ih =>
    rw [toList_join_cons] at h
    cases hblank : isBlankText t with
    | true =>
      rw [inked_cons_of_blank hblank]
      by_cases hempty : t.toList = []
      · exact ih (by rwa [hempty, List.nil_append] at h)
      · rw [beginsInWord_append hempty] at h
        exact absurd (isBlankText_eq_true.mp hblank) h.not_blank
    | false =>
      rw [inked_cons hblank, toList_join_cons]
      rw [beginsInWord_append (toList_ne_nil hblank)] at h ⊢
      exact h

/-- Words are glued at the first text or behind it. -/
lemma glues_cons :
    Glues (t :: ts) ↔
      (Abut t.toList (String.join (inked ts)).toList ∧ ¬ Abut t.toList (String.join ts).toList) ∨
        Glues ts := by
  constructor
  · rintro ⟨front, v, gap, u, back, hts, ⟨hv, hu⟩, hgap, g, hg, hne⟩
    cases front with
    | nil =>
      obtain ⟨rfl, rfl⟩ := List.cons_eq_cons.mp hts
      refine .inl ⟨⟨hv, beginsInWord_join_inked hgap hu back⟩, fun habut => hne ?_⟩
      exact (beginsInWord_join_iff hgap hu back).mp habut.2 g hg
    | cons w front =>
      obtain ⟨rfl, rfl⟩ := List.cons_eq_cons.mp hts
      exact .inr ⟨front, v, gap, u, back, rfl, ⟨hv, hu⟩, hgap, g, hg, hne⟩
  · rintro (⟨⟨ht, hinked⟩, hjoin⟩ | ⟨front, v, gap, u, back, rfl, h⟩)
    · obtain ⟨gap, u, back, rfl, hgap, hu⟩ := exists_of_beginsInWord_join_inked hinked
      have hsome : ¬ ∀ g ∈ gap, g = "" := fun hnone =>
        hjoin ⟨ht, (beginsInWord_join_iff hgap hu back).mpr hnone⟩
      push Not at hsome
      exact ⟨[], t, gap, u, back, rfl, ⟨ht, hu⟩, hgap, hsome⟩
    · exact ⟨t :: front, v, gap, u, back, rfl, h⟩

/-- Without the blank texts no word is won, and the words stay as they are exactly if none are
glued. -/
lemma spacedWords_join_inked (ts : List String) :
    (spacedWords (String.join (inked ts)).toList).length
        ≤ (spacedWords (String.join ts).toList).length ∧
      (spacedWords (String.join (inked ts)).toList = spacedWords (String.join ts).toList ↔
        ¬ Glues ts) := by
  induction ts with
  | nil => simp [inked, Glues]
  | cons t ts ih =>
    obtain ⟨hle, hiff⟩ := ih
    rw [glues_cons]
    cases hblank : isBlankText t with
    | true =>
      have hend : ¬ EndsInWord t.toList := fun h => h.not_blank (isBlankText_eq_true.mp hblank)
      rw [inked_cons_of_blank hblank, toList_join_cons, spacedWords_append fun h => hend h.1,
        spacedWords_of_blank (isBlankText_eq_true.mp hblank), List.nil_append]
      exact ⟨hle, by rw [hiff, or_iff_right fun h => hend h.1.1]⟩
    | false =>
      obtain ⟨hle', hiff'⟩ := spacedWords_append_compare t.toList hle
        beginsInWord_join_inked_of_join
      rw [inked_cons hblank, toList_join_cons, toList_join_cons]
      exact ⟨hle', by rw [hiff', hiff, not_or, and_comm]⟩

/-! ### Nodes and their texts -/

namespace Render

variable {σ : Type} (setting : Setting σ) (included : Inclusion → Render σ String)

/-- The texts of nodes, one for each. -/
def texts : List Node → Render σ (List String)
  | [] => return []
  | n :: rest => do
    let text ← node setting included n
    return text :: (← texts rest)

lemma nodes_eq (ns : List Node) :
    nodes setting included ns = String.join <$> texts setting included ns := by
  induction ns with
  | nil => rfl
  | cons n rest ih => simp [nodes, texts, ih, String.join_cons]

lemma inkedNodes_eq (ns : List Node) :
    inkedNodes setting included ns
      = (fun ts => String.join (inked ts)) <$> texts setting included ns := by
  induction ns with
  | nil => rfl
  | cons n rest ih =>
    have hcons (text : String) (more : List String) :
        String.join (inked (text :: more)) =
          if isBlankText text then String.join (inked more)
          else text ++ String.join (inked more) := by
      cases hblank : isBlankText text with
      | true => rw [inked_cons_of_blank hblank, if_pos rfl]
      | false => rw [inked_cons hblank, String.join_cons, if_neg (by simp)]
    simp [inkedNodes, texts, ih, hcons]

lemma run_map {α β : Type} (f : α → β) (step : Render σ α) (s : Session σ) :
    (f <$> step).run s = ((step.run s).1.map f, (step.run s).2) := by
  change (step >>= fun a => pure (f a)).run s = _
  rw [run_bind]
  rcases step.run s with ⟨r, s'⟩
  cases r <;> rfl

lemma run_eq_ok {α : Type} {step : Render σ α} {a : α} {s : Session σ}
    (h : (step.run s).1 = .ok a) : step.run s = (.ok a, (step.run s).2) :=
  Prod.ext h rfl

/-- The texts that the nodes of a body give for each entry of a collection, and the session from
entry to entry. Rendered like any other nodes, those of a body give all their texts. -/
inductive Iterates (item : String) (index? : Option String) (body : List Node) :
    List (Json × Json) → Session σ → List (List String) → Session σ → Prop where
  | done (s : Session σ) : Iterates item index? body [] s [] s
  | entry {entry : Json × Json} {rest : List (Json × Json)} {s s' s'' : Session σ}
      {ts : List String} {more : List (List String)} :
    (withFrame (entryFrame item index? entry) (texts setting included body)).run s = (.ok ts, s') →
    (withFrame (entryFrame item index? entry) (nodes setting included body)).run s
      = (.ok (String.join ts), s') →
    Iterates item index? body rest s' more s'' →
    Iterates item index? body (entry :: rest) s (ts :: more) s''

variable {setting included}

/-- The inked texts under a frame are the ones of all texts there. -/
lemma run_withFrame_inkedNodes {frame : KeyMap Json} {body : List Node} {text : String}
    {s s' : Session σ}
    (h : (withFrame frame (inkedNodes setting included body)).run s = (.ok text, s')) :
    ∃ ts, (withFrame frame (texts setting included body)).run s = (.ok ts, s') ∧
      (withFrame frame (nodes setting included body)).run s = (.ok (String.join ts), s') ∧
      text = String.join (inked ts) := by
  rw [run_withFrame, inkedNodes_eq, run_map] at h
  rw [run_withFrame, run_withFrame, nodes_eq, run_map]
  generalize (texts setting included body).run { s with scope := s.scope.push frame } = run at h ⊢
  obtain ⟨r, s''⟩ := run
  cases r with
  | error e => cases h
  | ok ts =>
    obtain ⟨htext, rfl⟩ := Prod.mk.inj h
    exact ⟨ts, rfl, rfl, (Except.ok.inj htext).symm⟩

lemma iterates_of_run_forEntries {item : String} {index? : Option String} {body : List Node}
    {found : List (Json × Json)} {parts : List String} {s s' : Session σ}
    (h : (forEntries item index? (inkedNodes setting included body) found).run s
      = (.ok parts, s')) :
    ∃ pieces, Iterates setting included item index? body found s pieces s' ∧
      parts = (pieces.map fun ts => String.join (inked ts)).filter fun t => !t.isEmpty := by
  induction found generalizing parts s with
  | nil =>
    obtain ⟨hparts, rfl⟩ := Prod.mk.inj h
    exact ⟨[], .done s, (Except.ok.inj hparts).symm⟩
  | cons entry rest ih =>
    rw [forEntries] at h
    obtain ⟨e, s₁, -, herror⟩ | ⟨text, s₁, hentry, hnext⟩ := run_bind_cases
      (withFrame (entryFrame item index? entry) (inkedNodes setting included body)) _ s
    · cases herror.symm.trans h
    rw [hnext] at h
    obtain ⟨e, s₂, -, herror⟩ | ⟨more, s₂, hrest, hnext⟩ := run_bind_cases
      (forEntries item index? (inkedNodes setting included body) rest) _ s₁
    · cases herror.symm.trans h
    rw [hnext] at h
    obtain ⟨hparts, rfl⟩ := Prod.mk.inj h
    obtain ⟨ts, htexts, hnodes, rfl⟩ := run_withFrame_inkedNodes hentry
    obtain ⟨pieces, hpieces, rfl⟩ := ih hrest
    refine ⟨ts :: pieces, .entry htexts hnodes hpieces, ?_⟩
    rw [← Except.ok.inj hparts, List.map_cons, List.filter_cons]
    cases (String.join (inked ts)).isEmpty <;> rfl

/-! ### Loops -/

/-- A loop that gives a text has found its collection and rendered its body for each entry. -/
lemma exists_of_run_loop {attributes : Attributes} {body : Render σ String} {out : String}
    {s s' : Session σ} (h : (loop attributes body).run s = (.ok out, s')) :
    ∃ collection found parts,
      attributes.required "foreach" "collection" = .ok collection ∧
      entries collection (s.scope.resolve? (trimmed collection)) = .ok found ∧
      (forEntries (attributes.getD "item" "item") (KeyMap.get? "index" attributes) body found).run s
        = (.ok parts, s') ∧
      out = attributes.getD "open" "" ++ (attributes.getD "separator" "").intercalate parts ++
        attributes.getD "close" "" := by
  rw [loop, run_bind, run_lift] at h
  cases hcollection : attributes.required "foreach" "collection" with
  | error e =>
    rw [hcollection] at h
    cases h
  | ok collection =>
    rw [hcollection] at h
    dsimp only at h
    rw [run_bind, run_scope] at h
    dsimp only at h
    rw [run_bind] at h
    simp only [run_lift] at h
    cases hfound : entries collection (s.scope.resolve? (trimmed collection)) with
    | error e =>
      rw [hfound] at h
      cases h
    | ok found =>
      rw [hfound] at h
      dsimp only at h
      obtain ⟨e, s₁, -, herror⟩ | ⟨parts, s₁, hparts, hnext⟩ := run_bind_cases
        (forEntries (attributes.getD "item" "item") (KeyMap.get? "index" attributes) body found) _ s
      · cases herror.symm.trans h
      obtain ⟨hout, rfl⟩ := Prod.mk.inj (hnext.symm.trans h)
      exact ⟨collection, found, parts, rfl, hfound, hparts, (Except.ok.inj hout).symm⟩

/-- What a loop gives: what its entries give, one after the other with the separator between them,
but nothing for an entry with a blank body. Blanks aside, an entry gives what its body gives
anywhere else, exactly if no words are glued that only blank texts keep apart. -/
theorem loop_texts (setting : Setting σ) (included : Inclusion → Render σ String)
    {name : String} (attributes : Attributes) (children : List Node)
    (htag : Tag.ofName? name = some .loop) {out : String} {s s' : Session σ}
    (hrun : (node setting included (.element name attributes children)).run s = (.ok out, s')) :
    ∃ collection found pieces,
      attributes.required "foreach" "collection" = .ok collection ∧
      entries collection (s.scope.resolve? (trimmed collection)) = .ok found ∧
      Iterates setting included (attributes.getD "item" "item") (KeyMap.get? "index" attributes)
        children found s pieces s' ∧
      out = attributes.getD "open" "" ++
        (attributes.getD "separator" "").intercalate
          ((pieces.map fun ts => String.join (inked ts)).filter fun t => !t.isEmpty) ++
        attributes.getD "close" "" ∧
      ∀ ts ∈ pieces,
        (String.join (inked ts) = "" ↔ isBlankText (String.join ts) = true) ∧
        (collapsed (String.join (inked ts)) = collapsed (String.join ts) ↔ ¬ Glues ts) := by
  rw [node, htag] at hrun
  obtain ⟨collection, found, parts, hcollection, hfound, hparts, hout⟩ := exists_of_run_loop hrun
  obtain ⟨pieces, hpieces, rfl⟩ := iterates_of_run_forEntries hparts
  refine ⟨collection, found, pieces, hcollection, hfound, hpieces, hout, fun ts _ => ?_⟩
  exact ⟨join_inked_eq_empty, collapsed_eq_iff.trans (spacedWords_join_inked ts).2⟩

/-- A loop over two entries, between whose texts the separator stands. -/
theorem loop_texts_of_two :
    ∃ pieces s',
      Iterates (Setting.plain [] (fun _ => none) .mysql) (fun _ => pure "") "item" none
        [.text "?"] [(.int 0, .null), (.int 1, .null)]
        ⟨Scope.ofBag (.object [("x", .array [.null, .null])]), (), []⟩ pieces s' ∧
      ",".intercalate ((pieces.map fun ts => String.join (inked ts)).filter fun t => !t.isEmpty)
        = "?,?" := by
  have htext : ((node (Setting.plain [] (fun _ => none) .mysql) (fun _ => pure "")
      (.element "foreach" [("collection", "x"), ("separator", ",")] [.text "?"])).run
        ⟨Scope.ofBag (.object [("x", .array [.null, .null])]), (), []⟩).1 = .ok "?,?" := by cbv
  obtain ⟨collection, found, pieces, hcollection, hfound, hpieces, hout, -⟩ :=
    loop_texts _ _ _ _ (by decide +kernel) (run_eq_ok htext)
  have hx : Attributes.required "foreach" [("collection", "x"), ("separator", ",")] "collection"
      = .ok "x" := by cbv
  obtain rfl : "x" = collection := Except.ok.inj (hx.symm.trans hcollection)
  have htwo : entries "x" ((Scope.ofBag (.object [("x", .array [.null, .null])])).resolve?
      (trimmed "x")) = .ok [(.int 0, .null), (.int 1, .null)] := by cbv
  dsimp only at hfound
  rw [htwo] at hfound
  obtain rfl := Except.ok.inj hfound
  refine ⟨pieces, _, hpieces, ?_⟩
  rw [hout]
  exact (String.append_empty).symm

/-- Two words are glued in a loop, although a space stands between their elements. -/
theorem loop_words_glued :
    ((node (Setting.plain [] (fun _ => none) .mysql) (fun _ => pure "")
      (.element "foreach" [("collection", "x")]
        [.element "choose" [] [.element "otherwise" [] [.text "a"]], .text " ",
          .element "choose" [] [.element "otherwise" [] [.text "b"]]])).run
        ⟨Scope.ofBag (.object [("x", .array [.null])]), (), []⟩).1 = .ok "ab" ∧
      Glues ["a", " ", "b"] := by
  refine ⟨by cbv, [], "a", [" "], "b", [], rfl, ⟨?_, ?_⟩, by decide, " ", ?_, by decide⟩
  · exact ⟨'a', by decide, by decide⟩
  · exact ⟨'b', by decide, by decide⟩
  · exact List.mem_singleton_self " "

end Render

end QueryLoom.Markup

import QueryLoom.Proofs.UniformRender

/-!
# Documents that quote a key

A document that reads a key only through markers that quote its text is rendered in the same way
for all texts of one class. Whether the conditions hold, what the loops go through and which
fragments are included does not depend on the text.
-/

namespace QueryLoom.Markup

/-! ### Documents that only quote a key -/

/-- An expression that is read from the text looks nothing up that may be the key. -/
def ExprAvoids (key source : String) : Prop :=
  ∀ e, Condition.Expr.parse source = .ok e → ∀ text ∈ e.lookups, AvoidsKey key text

/-- An element does not read the key itself, and removes no quotes as overrides. -/
def ElementAvoids (key name : String) (attributes : Attributes) : Prop :=
  match Tag.ofName? name with
  | some .conditional => ∀ source ∈ KeyMap.get? "test" attributes, ExprAvoids key source
  | some .binding => ∀ source ∈ KeyMap.get? "value" attributes, ExprAvoids key source
  | some .loop => ∀ text ∈ KeyMap.get? "collection" attributes, AvoidsKey key (Text.trimmed text)
  | some .inclusion => ∀ text ∈ KeyMap.get? "refid" attributes, TextAvoids key text
  | some .trim =>
    '\'' ∉ (attributes.getD "prefixOverrides" "").toList ∧
      '\'' ∉ (attributes.getD "suffixOverrides" "").toList
  | some .choice | some .conditions | some .assignments => True
  | none =>
    smallName name = "when" →
      ∀ source ∈ KeyMap.get? "test" attributes, ExprAvoids key source

lemma ElementAvoids.of_when {key name : String} {attributes : Attributes}
    (h : ElementAvoids key name attributes) (hwhen : smallName name = "when") :
    ∀ source ∈ KeyMap.get? "test" attributes, ExprAvoids key source := by
  have hname : Tag.ofName? name = none := by
    unfold Tag.ofName?
    rw [hwhen]
    rfl
  simp only [ElementAvoids, hname] at h
  exact h hwhen

mutual

/-- The node reads the key only through markers that quote its text. -/
def Node.Quotes (key : String) : Node → Prop
  | .text text => TextQuotes key text
  | .element name attributes children => ElementAvoids key name attributes ∧ AllQuote key children

/-- The nodes read the key only through markers that quote its text. -/
def AllQuote (key : String) : List Node → Prop
  | [] => True
  | n :: rest => n.Quotes key ∧ AllQuote key rest

end

/-- Settings that leave template text as it is. -/
def Setting.plain (namespaces : List String) (fragment? : String → Option (List Node))
    (d : Dialect) : Setting Unit :=
  ⟨namespaces, fragment?, d, fun text _ state => .ok (text, state)⟩

/-! ### Texts of elements -/

variable {entries : KeyMap Json} {key : String} {d : Dialect} {letters : Bool}

lemma Stable.written {T : List Char → List Char} (h : Stable letters T) (sk : Skeleton) :
    ∃ sk', ∀ text, IsLiteral letters (d.quoteLiteral text).toList →
      String.ofList (T (written d text sk).toList) = Markup.written d text sk' := by
  obtain ⟨sk', hsk'⟩ := h sk
  refine ⟨sk', fun text hl => ?_⟩
  rw [toList_written, hsk' _ hl]
  rfl

/-- The pieces between the occurrences of a character have nothing new in them. -/
lemma mem_of_mem_splitOn {x c : Char} {piece cs : List Char} (hpiece : piece ∈ cs.splitOn x)
    (hc : c ∈ piece) : c ∈ cs := by
  change piece ∈ cs.splitOnP (· == x) at hpiece
  induction cs generalizing piece with
  | nil =>
    rw [List.splitOnP_nil, List.mem_singleton] at hpiece
    rwa [hpiece] at hc
  | cons a cs ih =>
    rw [List.splitOnP_cons_eq_if_modifyHead] at hpiece
    split at hpiece
    · rcases List.mem_cons.mp hpiece with rfl | hpiece
      · cases hc
      · exact List.mem_cons_of_mem a (ih hc hpiece)
    · obtain ⟨first, more, hsplit⟩ :=
        List.exists_cons_of_ne_nil (List.splitOnP_ne_nil (· == x) cs)
      rw [hsplit, List.modifyHead_cons] at hpiece
      rw [hsplit] at ih
      rcases List.mem_cons.mp hpiece with rfl | hpiece
      · rcases List.mem_cons.mp hc with rfl | hc
        · exact List.mem_cons_self
        · exact List.mem_cons_of_mem a (ih hc List.mem_cons_self)
      · exact List.mem_cons_of_mem a (ih hc (List.mem_cons_of_mem first hpiece))

lemma isEmpty_written (sk : Skeleton) {text : String}
    (hl : IsLiteral letters (d.quoteLiteral text).toList) :
    (written d text sk).isEmpty = sk.isEmpty := by
  rw [← isEmpty_fill sk hl, ← toList_written, Bool.eq_iff_iff, List.isEmpty_iff,
    String.toList_eq_nil_iff, String.isEmpty_iff]

lemma isBlankText_written (sk : Skeleton) :
    ∃ b, ∀ text, IsLiteral letters (d.quoteLiteral text).toList →
      Text.isBlankText (written d text sk) = b := by
  obtain ⟨b, hb⟩ : ∃ b, ∀ literal, IsLiteral letters literal →
    (fill literal sk).all Text.isBlank = b := all_blank_fill sk
  exact ⟨b, fun text hl => by rw [Text.isBlankText, toList_written, hb _ hl]⟩

lemma Overrides.quoteless_ofText {text : String} (h : '\'' ∉ text.toList) :
    (Overrides.ofText text).Quoteless :=
  fun _ hpiece hquote => h (mem_of_mem_splitOn (List.mem_of_mem_filter hpiece) hquote)

lemma Trimming.quoteless_conditions : Trimming.conditions.Quoteless where
  lead := Overrides.quoteless_ofText (by decide)
  tail _ hpiece := absurd hpiece (by simp [Trimming.conditions])

/-- What a trimming gives is a skeleton again. -/
lemma Trimming.apply_written {t : Trimming} (ht : t.Quoteless) (sk : Skeleton) :
    ∃ sk', ∀ text, IsLiteral letters (d.quoteLiteral text).toList →
      t.apply (written d text sk) = written d text sk' := by
  have hstrip : Stable letters t.strip := stable_strip ht
  obtain ⟨body, hbody⟩ := hstrip sk
  obtain ⟨b, hb⟩ : ∃ b, ∀ literal, IsLiteral letters literal →
    (fill literal body).any Text.isAsciiLetter = b := any_letter_fill body
  have happly : ∀ text, IsLiteral letters (d.quoteLiteral text).toList →
      t.apply (written d text sk) =
        if !b then "" else
          " " ++ (if t.lead.isEmpty then "" else t.lead ++ " ") ++ written d text body ++
            (if t.tail.isEmpty then "" else " " ++ t.tail) ++ " " := by
    intro text hl
    simp only [Trimming.apply, toList_written, hbody _ hl, hb _ hl]
    rfl
  cases b with
  | false => exact ⟨[], happly⟩
  | true =>
    refine ⟨bare (" " ++ if t.lead.isEmpty then "" else t.lead ++ " ") ++ body ++
      bare (if t.tail.isEmpty then "" else " " ++ t.tail) ++ bare " ", fun text hl => ?_⟩
    rw [happly text hl]
    simp only [written_append, written_bare]
    rfl

lemma trimBody_written {attributes : Attributes} (h : (Render.trimmingOf attributes).Quoteless)
    (sk : Skeleton) :
    ∃ sk', ∀ text, IsLiteral letters (d.quoteLiteral text).toList →
      Render.trimBody attributes (written d text sk) = written d text sk' := by
  have hmend : Stable letters mendWhere := stable_mendWhere
  obtain ⟨trimmed, htrimmed⟩ : ∃ sk', ∀ text, IsLiteral letters (d.quoteLiteral text).toList →
    (Render.trimmingOf attributes).apply (written d text sk) = written d text sk' :=
    Trimming.apply_written h sk
  obtain ⟨sk', hsk'⟩ := hmend.written (d := d) trimmed
  refine ⟨sk', fun text hl => ?_⟩
  rw [← hsk' text hl, ← htrimmed text hl]
  rfl

lemma intercalate_written (sep : String) (sks : List Skeleton) :
    ∃ sk, ∀ text, sep.intercalate (sks.map (written d text)) = written d text sk := by
  induction sks with
  | nil => exact ⟨[], fun text => String.intercalate_nil⟩
  | cons sk sks ih =>
    cases sks with
    | nil => exact ⟨sk, fun text => String.intercalate_singleton⟩
    | cons sk' sks =>
      obtain ⟨more, hmore⟩ := ih
      refine ⟨sk ++ bare sep ++ more, fun text => ?_⟩
      rw [written_append, written_append, written_bare, ← hmore]
      exact String.intercalate_cons_cons

/-! ### Steps -/

lemma except_map_id {α : Type} (r : SqlResult α) : r.map (fun a => a) = r := by
  cases r <;> rfl

namespace Uniform

variable {namespaces : List String} {fragment? : String → Option (List Node)}

/-- A text that is left as it is, followed by a step. -/
lemma expand_bind {α β : Type} {view : String → β → α} {next : String → Render Unit α}
    (source : String) (h : Uniform entries key d letters view fun _ => next source) :
    Uniform entries key d letters view fun _ =>
      Render.expand (Setting.plain namespaces fragment? d) source >>= next := by
  have hexpand : ∀ s : Session Unit,
      (Render.expand (Setting.plain namespaces fragment? d) source).run s = (.ok source, s) := by
    intro s
    unfold Render.expand
    split <;> rfl
  intro s
  obtain ⟨r, s', hstep⟩ := h s
  refine ⟨r, s', fun text hl => ?_⟩
  rw [Render.run_bind, hexpand]
  exact hstep text hl

lemma replaceMarkers {source : String} (h : TextQuotes key source) :
    Uniform entries key d letters (written d) fun _ =>
      Render.replaceMarkers (Setting.plain namespaces fragment? d) source := by
  refine scope_bind fun sc => ?_
  obtain ⟨r, hr⟩ := substitute_atop entries d sc h
  exact lift hr

lemma replaceMarkers_avoids {source : String} (h : TextAvoids key source) :
    Uniform entries key d letters same fun _ =>
      Render.replaceMarkers (Setting.plain namespaces fragment? d) source := by
  refine scope_bind fun sc => ?_
  refine lift (r := substitute { sc with base := .object entries } d source) fun text => ?_
  rw [← substitute_over_of_avoids entries d sc h text]
  exact (except_map_id _).symm

/-- What an expression is worth that avoids the key. -/
lemma eval_atop {source : String} (h : ExprAvoids key source) (sc : Scope)
    {e : Condition.Expr} (he : Condition.Expr.parse source = .ok e) (text : String) :
    e.eval (sc.atop entries key (.string text)).resolve?
      = e.eval ({ sc with base := .object entries } : Scope).resolve? :=
  e.eval_congr fun t ht => Scope.resolve?_atop (h e he t ht) (.string text) sc

lemma test {source : String} (h : ExprAvoids key source) :
    Uniform entries key d letters same fun _ => Render.test source := by
  refine scope_bind fun sc => ?_
  cases he : Condition.Expr.parse source with
  | error e => exact bind (record _) fun _ => pure fun _ _ => rfl
  | ok e =>
    simp only [Except.bind, Condition.Expr.test, eval_atop h sc he]
    cases e.eval ({ sc with base := .object entries } : Scope).resolve? with
    | error err => exact bind (record _) fun _ => pure fun _ _ => rfl
    | ok value => exact pure fun _ _ => rfl

lemma bindValue {attributes : Attributes}
    (h : ∀ source ∈ KeyMap.get? "value" attributes, ExprAvoids key source) :
    Uniform entries key d letters same fun _ => Render.bindValue attributes := by
  refine lift_bind fun name _ => lift_bind fun source hsource => lift_bind fun e he => ?_
  refine scope_bind fun sc => ?_
  simp only [eval_atop (h source (Attributes.get?_of_required hsource)) sc he]
  exact lift_bind fun value _ => setValue (Text.trimmed name) value

/-- The steps of a loop give their skeletons in order, without the empty ones. -/
lemma forEntries {body : Render Unit String}
    (h : Uniform entries key d letters (written d) fun _ => body) (item : String)
    (index? : Option String) (found : List (Json × Json)) :
    Uniform entries key d letters (fun text (sks : List Skeleton) => sks.map (written d text))
      fun _ => Render.forEntries item index? body found := by
  induction found with
  | nil => exact pure (b := []) fun _ _ => rfl
  | cons entry found ih =>
    refine bind (withFrame h (Render.entryFrame item index? entry)) fun sk => ?_
    refine bind ih fun sks => ?_
    refine pure (b := if sk.isEmpty then sks else sk :: sks) fun text hl => ?_
    rw [isEmpty_written sk hl]
    split <;> rfl

lemma loop {attributes : Attributes}
    (hcollection : ∀ text ∈ KeyMap.get? "collection" attributes, AvoidsKey key (Text.trimmed text))
    {body : Render Unit String} (h : Uniform entries key d letters (written d) fun _ => body) :
    Uniform entries key d letters (written d) fun _ => Render.loop attributes body := by
  refine lift_bind fun collection hc => scope_bind fun sc => ?_
  have hresolve : ∀ text, (sc.atop entries key (.string text)).resolve? (Text.trimmed collection)
      = ({ sc with base := .object entries } : Scope).resolve? (Text.trimmed collection) :=
    fun text => Scope.resolve?_atop (hcollection collection (Attributes.get?_of_required hc)) (.string text) sc
  simp only [hresolve]
  refine lift_bind fun found _ => ?_
  refine bind (forEntries h _ _ found) fun sks => ?_
  obtain ⟨sk, hsk⟩ := intercalate_written (d := d) (attributes.getD "separator" "") sks
  refine pure (b := bare (attributes.getD "open" "") ++ sk ++ bare (attributes.getD "close" ""))
    fun text _ => ?_
  rw [written_append, written_append, written_bare, written_bare, hsk]

lemma nothing :
    Uniform entries key d letters (written d) fun _ => (Pure.pure "" : Render Unit String) :=
  pure (b := []) fun _ _ => rfl

/-- What is made of the text of a step. -/
lemma mapText {step : Render Unit String} {f : String → String}
    (h : Uniform entries key d letters (written d) fun _ => step)
    (hf : ∀ sk, ∃ sk', ∀ text, IsLiteral letters (d.quoteLiteral text).toList →
      f (written d text sk) = written d text sk') :
    Uniform entries key d letters (written d) fun _ => step >>= fun s => Pure.pure (f s) := by
  refine bind h fun sk => ?_
  obtain ⟨sk', hsk'⟩ := hf sk
  exact pure hsk'

lemma conditional {tag : String} {attributes : Attributes}
    (h : ∀ source ∈ KeyMap.get? "test" attributes, ExprAvoids key source)
    {step step' : Render Unit String}
    (hstep : Uniform entries key d letters (written d) fun _ => step)
    (hstep' : Uniform entries key d letters (written d) fun _ => step') :
    Uniform entries key d letters (written d) fun _ => (do
      if ← Render.test (← attributes.required tag "test") then step else step') := by
  refine lift_bind fun source hsource => ?_
  exact bind (test (h source (Attributes.get?_of_required hsource))) fun b => ite b hstep hstep'

/-- What an include finds is a fragment. -/
lemma findInclusion {attributes : Attributes}
    (hrefid : ∀ text ∈ KeyMap.get? "refid" attributes, TextAvoids key text)
    (hfragments : ∀ name nodes, fragment? name = some nodes → AllQuote key nodes)
    (children : List Node) :
    Uniform entries key d letters
      (fun _ (found : { found : Render.Inclusion // AllQuote key found.nodes }) => found.val)
      fun _ => Render.findInclusion (Setting.plain namespaces fragment? d) attributes children := by
  refine lift_bind fun refid hrefid' => ?_
  refine bind (replaceMarkers_avoids (hrefid refid (Attributes.get?_of_required hrefid'))) fun reference => ?_
  refine lift_bind fun frame _ => ?_
  dsimp only [same]
  split
  · next nodes hnodes =>
    obtain ⟨name, -, hname⟩ := List.exists_of_findSome?_eq_some hnodes
    exact pure (b := ⟨⟨Text.trimmed reference, frame, nodes⟩, hfragments name nodes hname⟩)
      fun _ _ => rfl
  · exact throw _

end Uniform

/-! ### Nodes -/

section Nodes

set_option linter.unusedSectionVars false

variable {namespaces : List String} {fragment? : String → Option (List Node)}
  {included : Render.Inclusion → Render Unit String}
  (hfragments : ∀ name nodes, fragment? name = some nodes → AllQuote key nodes)
  (hincluded : ∀ found : Render.Inclusion, AllQuote key found.nodes →
    Uniform entries key d letters (written d) fun _ => included found)

include hfragments hincluded

mutual

lemma node_uniform :
    (n : Node) → n.Quotes key → Uniform entries key d letters (written d) fun _ =>
      Render.node (Setting.plain namespaces fragment? d) included n
  | .text text, h => by
    rw [Render.node]
    exact Uniform.expand_bind text (Uniform.replaceMarkers h)
  | .element name attributes children, h => by
    obtain ⟨hattributes, hchildren⟩ := h
    have hnodes := nodes_uniform children hchildren
    rw [Render.node]
    unfold ElementAvoids at hattributes
    cases htag : Tag.ofName? name with
    | none => exact Uniform.throw _
    | some tag =>
      simp only [htag] at hattributes
      cases tag with
      | conditional =>
        exact Uniform.conditional hattributes hnodes Uniform.nothing
      | choice => exact choice_uniform children hchildren
      | trim =>
        refine Uniform.mapText hnodes (trimBody_written ⟨?_, ?_⟩)
        · exact Overrides.quoteless_ofText hattributes.1
        · exact Overrides.quoteless_ofText hattributes.2
      | conditions =>
        exact Uniform.mapText hnodes (Trimming.apply_written Trimming.quoteless_conditions)
      | assignments =>
        refine Uniform.mapText hnodes fun sk => ?_
        have htidy : Stable letters tidyAssignments := stable_tidyAssignments
        obtain ⟨sk', hsk'⟩ := htidy.written (d := d) sk
        refine ⟨bare " SET " ++ sk', fun text hl => ?_⟩
        rw [written_append, written_bare, hsk' text hl]
      | loop =>
        exact Uniform.loop hattributes (inkedNodes_uniform children hchildren)
      | binding =>
        exact Uniform.bind (Uniform.bindValue hattributes) fun _ => Uniform.nothing
      | inclusion =>
        exact Uniform.bind (Uniform.findInclusion hattributes hfragments children) fun found =>
          hincluded found.val found.property

lemma nodes_uniform :
    (ns : List Node) → AllQuote key ns → Uniform entries key d letters (written d) fun _ =>
      Render.nodes (Setting.plain namespaces fragment? d) included ns
  | [], _ => by
    rw [Render.nodes]
    exact Uniform.nothing
  | n :: rest, h => by
    have hnode := node_uniform n h.1
    have hrest := nodes_uniform rest h.2
    rw [Render.nodes]
    refine Uniform.bind hnode fun sk => Uniform.bind hrest fun sk' => ?_
    exact Uniform.pure (b := sk ++ sk') fun text _ => (written_append d text sk sk').symm

lemma inkedNodes_uniform :
    (ns : List Node) → AllQuote key ns → Uniform entries key d letters (written d) fun _ =>
      Render.inkedNodes (Setting.plain namespaces fragment? d) included ns
  | [], _ => by
    rw [Render.inkedNodes]
    exact Uniform.nothing
  | n :: rest, h => by
    have hnode := node_uniform n h.1
    have hrest := inkedNodes_uniform rest h.2
    rw [Render.inkedNodes]
    refine Uniform.bind hnode fun sk => Uniform.bind hrest fun sk' => ?_
    -- Quotes are not blank, so whether a text is left out does not depend on what is in them.
    obtain ⟨b, hb⟩ : ∃ b, ∀ text, IsLiteral letters (d.quoteLiteral text).toList →
      Text.isBlankText (written d text sk) = b := isBlankText_written sk
    refine Uniform.pure (b := if b then sk' else sk ++ sk') fun text hl => ?_
    rw [hb text hl]
    cases b with
    | true => rfl
    | false => exact (written_append d text sk sk').symm

lemma choice_uniform :
    (ns : List Node) → AllQuote key ns → Uniform entries key d letters (written d) fun _ =>
      Render.choice (Setting.plain namespaces fragment? d) included ns
  | [], _ => by
    rw [Render.choice]
    exact Uniform.nothing
  | .text text :: rest, h => by
    rw [Render.choice]
    exact choice_uniform rest h.2
  | .element name attributes children :: rest, h => by
    have hnodes := nodes_uniform children h.1.2
    have hrest := choice_uniform rest h.2
    rw [Render.choice]
    by_cases hwhen : smallName name = "when"
    · rw [if_pos hwhen]
      exact Uniform.conditional (h.1.1.of_when hwhen) hnodes hrest
    · rw [if_neg hwhen]
      by_cases hotherwise : smallName name = "otherwise"
      · rw [if_pos hotherwise]
        exact hnodes
      · rw [if_neg hotherwise]
        exact Uniform.throw _

end

end Nodes

end QueryLoom.Markup

import QueryLoom.Markup.Render
import QueryLoom.Proofs.Results

/-!
# Rendering, step by step

What a step of rendering gives and the session it leaves. A relation between the steps of two
renderings that is kept when steps are put together holds of the renderings of every document.
-/

namespace QueryLoom

open Condition (Expr)

/-! ### Errors of steps -/

/-- An error that only an include raises: its fragment was not found, or too many were open. -/
def SqlError.OfInclude : SqlError → Prop
  | .includeNotFound _ _ => True
  | .malformedTag _ (.includeTooDeep _ _) => True
  | _ => False

/-- The result is not an error that only an include raises. -/
def Ordinary {α : Type} (r : SqlResult α) : Prop := ∀ e, r = .error e → ¬ e.OfInclude

namespace Ordinary

variable {α β : Type}

lemma ok (a : α) : Ordinary (.ok a) := by
  intro e h
  cases h

lemma error {e : SqlError} (he : ¬ e.OfInclude) : Ordinary (.error e : SqlResult α) := by
  intro e' h
  rwa [← Except.error.inj h]

lemma bind {r : SqlResult α} {f : α → SqlResult β} (hr : Ordinary r)
    (hf : ∀ a, r = .ok a → Ordinary (f a)) : Ordinary (r >>= f) := by
  cases r with
  | error e => exact error (hr e rfl)
  | ok a => exact hf a rfl

lemma map {r : SqlResult α} (hr : Ordinary r) (f : α → β) : Ordinary (r.map f) := by
  cases r with
  | error e => exact error (hr e rfl)
  | ok a => exact ok (f a)

lemma unconvertedParameter (markers : List String) :
    Ordinary (.error (.unconvertedParameter markers) : SqlResult α) := error id

lemma parse (contexts : List String) (fault : ParseFault) :
    Ordinary (.error (.parse contexts fault) : SqlResult α) := error id

end Ordinary

/-! ### Errors of conditions -/

/-- The result is no error, or one of a condition. -/
def FailsAsCondition {α : Type} (r : SqlResult α) : Prop :=
  ∀ e, r = .error e → ∃ expression fault, e = .condition expression fault

namespace FailsAsCondition

variable {α β : Type}

lemma ok (a : α) : FailsAsCondition (.ok a) := by
  intro e h
  cases h

lemma error (expression : String) (fault : ConditionFault) :
    FailsAsCondition (.error (.condition expression fault) : SqlResult α) := by
  intro e h
  exact ⟨expression, fault, (Except.error.inj h).symm⟩

lemma bind {r : SqlResult α} {f : α → SqlResult β} (hr : FailsAsCondition r)
    (hf : ∀ a, FailsAsCondition (f a)) : FailsAsCondition (r >>= f) := by
  cases r with
  | error e =>
    obtain ⟨expression, fault, rfl⟩ := hr e rfl
    exact error expression fault
  | ok a => exact hf a

lemma ordinary {r : SqlResult α} (h : FailsAsCondition r) : Ordinary r := by
  intro e he
  obtain ⟨expression, fault, rfl⟩ := h e he
  exact id

lemma exprParse (source : String) : FailsAsCondition (Expr.parse source) := by
  unfold Expr.parse
  split
  · exact error source _
  · split
    · exact error source _
    · exact ok _

lemma exprEval (lookup : String → Option Json) (e : Expr) : FailsAsCondition (e.eval lookup) := by
  induction e with
  | literal value => exact ok value
  | path p => exact ok _
  | not e ih => exact ih.bind fun value => ok _
  | neg e ih =>
    refine ih.bind fun value => ?_
    cases Condition.toNumber? value with
    | none => exact error _ _
    | some f => exact ok _
  | and left right ihl ihr =>
    refine ihl.bind fun value => ?_
    split
    · exact ihr
    · exact ok value
  | or left right ihl ihr =>
    refine ihl.bind fun value => ?_
    split
    · exact ok value
    · exact ihr
  | binary operator left right ihl ihr =>
    refine ihl.bind fun a => ihr.bind fun b => ?_
    cases operator.apply a b with
    | error fault => exact error _ fault
    | ok value => exact ok value

end FailsAsCondition

namespace Markup

lemma Attributes.get?_of_required {tag key value : String} {attributes : Attributes}
    (h : attributes.required tag key = .ok value) : KeyMap.get? key attributes = some value := by
  unfold Attributes.required at h
  split at h
  · next found hfound =>
    split at h
    · cases h
    · rw [hfound, Except.ok.inj h]
  · cases h

lemma ordinary_required (tag : String) (attributes : Attributes) (key : String) :
    Ordinary (attributes.required tag key) := by
  unfold Attributes.required
  split
  · split
    · exact .error id
    · exact .ok _
  · exact .error id

lemma ordinary_substitute (scope : Scope) (d : Dialect) (text : String) :
    Ordinary (substitute scope d text) := by
  dsimp only [substitute]
  split
  · exact .ok _
  · exact .unconvertedParameter _

namespace Render

lemma ordinary_entries (collection : String) (value? : Option Json) :
    Ordinary (entries collection value?) := by
  unfold entries
  split
  · exact .unconvertedParameter _
  · exact .ok _
  · exact .ok _
  · exact .ok _
  · exact .error id

lemma ordinary_propertyFrame (frame : KeyMap Json) (children : List Node) :
    Ordinary (propertyFrame frame children) := by
  induction children generalizing frame with
  | nil => exact .ok frame
  | cons child rest ih =>
    cases child with
    | text s => exact ih frame
    | element name attributes children =>
      rw [propertyFrame]
      split
      · exact (ordinary_required _ attributes "name").bind fun key _ => ih _
      · exact .error id

/-! ### Runs of steps -/

section Runs

variable {σ α β : Type}

lemma run_bind (step : Render σ α) (next : α → Render σ β) (s : Session σ) :
    (step >>= next).run s =
      match step.run s with
      | (.ok a, s') => (next a).run s'
      | (.error e, s') => (.error e, s') := by
  change (match step.run s with
    | (r, s') => ExceptT.bindCont next r s') = _
  rcases step.run s with ⟨r, s'⟩
  cases r <;> rfl

/-- A step after another one is not taken if that one fails. -/
lemma run_bind_cases (step : Render σ α) (next : α → Render σ β) (s : Session σ) :
    (∃ e s', step.run s = (.error e, s') ∧ (step >>= next).run s = (.error e, s')) ∨
      ∃ a s', step.run s = (.ok a, s') ∧ (step >>= next).run s = (next a).run s' := by
  rw [run_bind]
  rcases step.run s with ⟨r, s'⟩
  cases r with
  | error e => exact .inl ⟨e, s', rfl, rfl⟩
  | ok a => exact .inr ⟨a, s', rfl, rfl⟩

@[simp] lemma run_pure (a : α) (s : Session σ) : (pure a : Render σ α).run s = (.ok a, s) := rfl

@[simp] lemma run_lift (r : SqlResult α) (s : Session σ) :
    (liftM r : Render σ α).run s = (r, s) := rfl

@[simp] lemma run_throw (e : SqlError) (s : Session σ) :
    (throw e : Render σ α).run s = (.error e, s) := rfl

@[simp] lemma run_get (s : Session σ) : (get : Render σ (Session σ)).run s = (.ok s, s) := rfl

@[simp] lemma run_scope (s : Session σ) : (scope : Render σ Scope).run s = (.ok s.scope, s) := rfl

@[simp] lemma run_setValue (key : String) (value : Json) (s : Session σ) :
    (setValue key value).run s = (.ok (), { s with scope := s.scope.set key value }) := rfl

lemma run_withFrame (frame : KeyMap Json) (step : Render σ α) (s : Session σ) :
    (withFrame frame step).run s =
      ((step.run { s with scope := s.scope.push frame }).1,
        { (step.run { s with scope := s.scope.push frame }).2 with
          scope := (step.run { s with scope := s.scope.push frame }).2.scope.pop }) := rfl

lemma run_expand (setting : Setting σ) (text : String) (s : Session σ) :
    (expand setting text).run s =
      if Text.contains text "\x7b\x7b" then
        match setting.expand text s.scope.flatten s.expansion with
        | .ok (text, expansion) => (.ok text, { s with expansion := expansion })
        | .error e => (.error e, s)
      else (.ok text, s) := by
  unfold expand
  split
  · simp only [run_bind, run_get, run_lift]
    cases setting.expand text s.scope.flatten s.expansion <;> rfl
  · rfl

lemma run_replaceMarkers (setting : Setting σ) (text : String) (s : Session σ) :
    (replaceMarkers setting text).run s = (substitute s.scope setting.dialect text, s) := rfl

/-- What an include gives where a fragment was found, or none. -/
def inclusionOf (namespaces : List String) (reference : String) (children : List Node)
    (found : Option (List Node)) : SqlResult Inclusion := do
  let frame ← propertyFrame [] children
  match found with
  | some nodes => return ⟨reference, frame, nodes⟩
  | none => throw (.includeNotFound reference namespaces)

lemma run_findInclusion (setting : Setting σ) {attributes : Attributes}
    {written reference : String} (children : List Node) (s : Session σ)
    (hrefid : attributes.required "include" "refid" = .ok written)
    (hreference : substitute s.scope setting.dialect written = .ok reference) :
    (findInclusion setting attributes children).run s =
      (inclusionOf setting.namespaces (Text.trimmed reference) children
        ((fullNames setting.namespaces (Text.trimmed reference)).findSome? setting.fragment?),
        s) := by
  rw [findInclusion, hrefid, run_bind, run_lift]
  dsimp only
  rw [run_bind, run_replaceMarkers, hreference]
  dsimp only
  rw [run_bind, run_lift, inclusionOf]
  cases propertyFrame [] children with
  | error e => rfl
  | ok frame =>
    simp only [bind, Except.bind]
    cases (fullNames setting.namespaces (Text.trimmed reference)).findSome?
      setting.fragment? <;> rfl

end Runs

/-! ### Relations between renderings -/

section Related

variable {σ τ : Type}

/-- A relation between steps of two renderings that is kept when steps are put together. -/
structure Congruence (R : {α : Type} → Render σ α → Render τ α → Prop) : Prop where
  lift {α : Type} {r : SqlResult α} : Ordinary r → R (liftM r) (liftM r)
  bind {α β : Type} {step : Render σ α} {step' : Render τ α} {next : α → Render σ β}
    {next' : α → Render τ β} : R step step' → (∀ a, R (next a) (next' a)) →
      R (step >>= next) (step' >>= next')
  scope : R scope scope
  record (e : Event) : R (record e) (record e)
  setValue (key : String) (value : Json) : R (setValue key value) (setValue key value)
  withFrame {α : Type} {step : Render σ α} {step' : Render τ α} (frame : KeyMap Json) :
    R step step' → R (withFrame frame step) (withFrame frame step')

/-- Two settings with the same fragments, between which template text is expanded and a missing
fragment is refused in related steps. -/
structure Corresponds (R : {α : Type} → Render σ α → Render τ α → Prop) (setting : Setting σ)
    (setting' : Setting τ) : Prop where
  namespaces : setting'.namespaces = setting.namespaces
  fragments : setting'.fragment? = setting.fragment?
  dialect : setting'.dialect = setting.dialect
  expand (text : String) : R (expand setting text) (expand setting' text)
  missing (reference : String) :
    (fullNames setting.namespaces reference).findSome? setting.fragment? = none →
      R (throw (.includeNotFound reference setting.namespaces) : Render σ Inclusion)
        (throw (.includeNotFound reference setting.namespaces))

variable {R : {α : Type} → Render σ α → Render τ α → Prop}

namespace Congruence

variable (hR : Congruence R)

include hR

lemma pure {α : Type} (a : α) : R (Pure.pure a) (Pure.pure a) := hR.lift (.ok a)

lemma throw {α : Type} {e : SqlError} (he : ¬ e.OfInclude) :
    R (MonadExcept.throw e : Render σ α) (MonadExcept.throw e) :=
  hR.lift (.error he)

lemma required (tag : String) (attributes : Attributes) (key : String) :
    R (liftM (attributes.required tag key)) (liftM (attributes.required tag key)) :=
  hR.lift (ordinary_required tag attributes key)

lemma test (source : String) : R (Render.test source) (Render.test source) := by
  refine hR.bind hR.scope fun scope => ?_
  dsimp only
  cases (Expr.parse source).bind (·.test scope.resolve?) with
  | ok b => exact hR.pure b
  | error e => exact hR.bind (hR.record _) fun _ => hR.pure false

lemma bindValue (attributes : Attributes) :
    R (Render.bindValue attributes) (Render.bindValue attributes) := by
  refine hR.bind (hR.required _ attributes "name") fun name => ?_
  refine hR.bind (hR.required _ attributes "value") fun source => ?_
  refine hR.bind (hR.lift (FailsAsCondition.exprParse source).ordinary) fun e => ?_
  refine hR.bind hR.scope fun scope => ?_
  refine hR.bind (hR.lift (FailsAsCondition.exprEval _ e).ordinary) fun value => ?_
  exact hR.setValue (Text.trimmed name) value

lemma forEntries {body : Render σ String} {body' : Render τ String} (h : R body body')
    (item : String) (index? : Option String) (found : List (Json × Json)) :
    R (Render.forEntries item index? body found) (Render.forEntries item index? body' found) := by
  induction found with
  | nil => exact hR.pure []
  | cons entry found ih =>
    refine hR.bind (hR.withFrame _ h) fun text => ?_
    exact hR.bind ih fun texts => hR.pure _

lemma loop {body : Render σ String} {body' : Render τ String} (h : R body body')
    (attributes : Attributes) :
    R (Render.loop attributes body) (Render.loop attributes body') := by
  refine hR.bind (hR.required _ attributes "collection") fun collection => ?_
  refine hR.bind hR.scope fun scope => ?_
  refine hR.bind (hR.lift (ordinary_entries collection _)) fun found => ?_
  exact hR.bind (hR.forEntries h _ _ found) fun texts => hR.pure _

lemma conditional {step₁ step₂ : Render σ String} {step₁' step₂' : Render τ String}
    (h₁ : R step₁ step₁') (h₂ : R step₂ step₂') (tag : String) (attributes : Attributes) :
    R (do if ← Render.test (← attributes.required tag "test") then step₁ else step₂)
      (do if ← Render.test (← attributes.required tag "test") then step₁' else step₂') := by
  refine hR.bind (hR.required tag attributes "test") fun source => ?_
  refine hR.bind (hR.test source) fun b => ?_
  cases b with
  | true => exact h₁
  | false => exact h₂

variable {setting : Setting σ} {setting' : Setting τ} (hs : Corresponds R setting setting')

include hs

lemma replaceMarkers (text : String) :
    R (Render.replaceMarkers setting text) (Render.replaceMarkers setting' text) := by
  unfold Render.replaceMarkers
  rw [hs.dialect]
  exact hR.bind hR.scope fun scope => hR.lift (ordinary_substitute scope _ text)

lemma findInclusion (attributes : Attributes) (children : List Node) :
    R (Render.findInclusion setting attributes children)
      (Render.findInclusion setting' attributes children) := by
  refine hR.bind (hR.required _ attributes "refid") fun written => ?_
  refine hR.bind (hR.replaceMarkers hs written) fun reference => ?_
  refine hR.bind (hR.lift (ordinary_propertyFrame [] children)) fun frame => ?_
  rw [hs.namespaces, hs.fragments]
  cases hfind : (fullNames setting.namespaces (Text.trimmed reference)).findSome?
      setting.fragment? with
  | some nodes => exact hR.pure _
  | none => exact hs.missing _ hfind

end Congruence

/-! ### Nodes -/

section Nodes

set_option linter.unusedSectionVars false

variable {setting : Setting σ} {setting' : Setting τ} {included : Inclusion → Render σ String}
  {included' : Inclusion → Render τ String} (hR : Congruence R)
  (hs : Corresponds R setting setting') (hincluded : ∀ found, R (included found) (included' found))

include hR hs hincluded

mutual

lemma node_related : (n : Node) → R (node setting included n) (node setting' included' n)
  | .text text => by
    rw [node, node]
    exact hR.bind (hs.expand text) fun text => hR.replaceMarkers hs text
  | .element name attributes children => by
    have hnodes := nodes_related children
    rw [node, node]
    cases Tag.ofName? name with
    | none => exact hR.throw id
    | some tag =>
      cases tag with
      | conditional => exact hR.conditional hnodes (hR.pure "") name attributes
      | choice => exact choice_related children
      | trim => exact hR.bind hnodes fun body => hR.pure _
      | conditions => exact hR.bind hnodes fun body => hR.pure _
      | assignments => exact hR.bind hnodes fun body => hR.pure _
      | loop => exact hR.loop (inkedNodes_related children) attributes
      | binding => exact hR.bind (hR.bindValue attributes) fun _ => hR.pure ""
      | inclusion => exact hR.bind (hR.findInclusion hs attributes children) hincluded

lemma nodes_related : (ns : List Node) → R (nodes setting included ns) (nodes setting' included' ns)
  | [] => by
    rw [nodes, nodes]
    exact hR.pure ""
  | n :: rest => by
    rw [nodes, nodes]
    refine hR.bind (node_related n) fun text => ?_
    exact hR.bind (nodes_related rest) fun more => hR.pure _

lemma inkedNodes_related :
    (ns : List Node) → R (inkedNodes setting included ns) (inkedNodes setting' included' ns)
  | [] => by
    rw [inkedNodes, inkedNodes]
    exact hR.pure ""
  | n :: rest => by
    rw [inkedNodes, inkedNodes]
    refine hR.bind (node_related n) fun text => ?_
    exact hR.bind (inkedNodes_related rest) fun more => hR.pure _

lemma choice_related :
    (ns : List Node) → R (choice setting included ns) (choice setting' included' ns)
  | [] => by
    rw [choice, choice]
    exact hR.pure ""
  | .text text :: rest => by
    rw [choice, choice]
    exact choice_related rest
  | .element name attributes children :: rest => by
    have hnodes := nodes_related children
    rw [choice, choice]
    by_cases hwhen : smallName name = "when"
    · rw [if_pos hwhen, if_pos hwhen]
      exact hR.conditional hnodes (choice_related rest) name attributes
    · rw [if_neg hwhen, if_neg hwhen]
      by_cases hotherwise : smallName name = "otherwise"
      · rw [if_pos hotherwise, if_pos hotherwise]
        exact hnodes
      · rw [if_neg hotherwise, if_neg hotherwise]
        exact hR.throw id

end

end Nodes

/-! ### Documents -/

section Documents

variable {setting : Setting σ} {setting' : Setting τ} (hR : Congruence R)
  (hs : Corresponds R setting setting')

include hR hs

variable (hdeep : ∀ found, R (includeWithin setting 0 found) (includeWithin setting' 0 found))

include hdeep

lemma includeWithin_related (room : Nat) (found : Inclusion) :
    R (includeWithin setting room found) (includeWithin setting' room found) := by
  induction room generalizing found with
  | zero => exact hdeep found
  | succ room ih => exact hR.withFrame found.frame (nodes_related hR hs ih found.nodes)

lemma document_related (ns : List Node) : R (document setting ns) (document setting' ns) :=
  nodes_related hR hs (includeWithin_related hR hs hdeep maxIncludes) ns

end Documents

end Related

/-! ### Kept properties -/

section Kept

variable {σ : Type} {P : {α : Type} → Render σ α → Prop} {setting : Setting σ}
  {included : Inclusion → Render σ String}

/-- A property that is kept when steps are put together holds of the rendering of nodes. -/
lemma nodes_kept (hP : Congruence fun {α} (step : Render σ α) (_ : Render σ α) => P step)
    (hs : Corresponds (fun {α} (step : Render σ α) (_ : Render σ α) => P step) setting setting)
    (hincluded : ∀ found, P (included found)) (ns : List Node) : P (nodes setting included ns) :=
  @nodes_related σ σ _ setting setting included included hP hs hincluded ns

lemma inkedNodes_kept (hP : Congruence fun {α} (step : Render σ α) (_ : Render σ α) => P step)
    (hs : Corresponds (fun {α} (step : Render σ α) (_ : Render σ α) => P step) setting setting)
    (hincluded : ∀ found, P (included found)) (ns : List Node) :
    P (inkedNodes setting included ns) :=
  @inkedNodes_related σ σ _ setting setting included included hP hs hincluded ns

end Kept

end Render

end Markup

end QueryLoom

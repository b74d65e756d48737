import Mathlib.Data.List.Sublists
import QueryLoom.Proofs.MapEntries
import QueryLoom.Proofs.OpenIncludes

/-!
# What rendering does to the scope

Rendering a node leaves every frame below the topmost one as it is, and puts into the topmost one
the names that `bind` elements gave a value, outside of loops and includes within the node. Frames
of loops and includes are gone afterwards with all that was bound in them, also after an error.
-/

namespace QueryLoom

/-! ### Bindings -/

/-- The scope with some entries put into its topmost frame. -/
def Scope.bind (entries : List (String × Json)) (s : Scope) : Scope :=
  { s with top := s.top.overlay entries }

lemma Scope.bind_append (xs ys : List (String × Json)) (s : Scope) :
    s.bind (xs ++ ys) = (s.bind xs).bind ys := by
  rw [bind, KeyMap.overlay_append]
  rfl

namespace Markup

open Condition (Expr)

variable {σ : Type} {α β : Type}

mutual

/-- The names of the bindings in a node, outside of loops and includes. -/
def Node.boundNames : Node → List String
  | .text _ => []
  | .element name attributes children =>
    match Tag.ofName? name with
    | some .binding => [Text.trimmed (Attributes.getD attributes "name" "")]
    | some .choice => alternativeNames children
    | some .conditional | some .trim | some .conditions | some .assignments => boundNames children
    | some .loop | some .inclusion | none => []

/-- The names of the bindings in some nodes, outside of loops and includes. -/
def boundNames : List Node → List String
  | [] => []
  | n :: rest => n.boundNames ++ boundNames rest

/-- The names of the bindings in some alternatives, outside of loops and includes. -/
def alternativeNames : List Node → List String
  | [] => []
  | .text _ :: rest => alternativeNames rest
  | .element _ _ children :: rest => boundNames children ++ alternativeNames rest

end

namespace Render

/-- The name and the value that a binding gives it. -/
def binding (attributes : Attributes) (scope : Scope) : SqlResult (String × Json) := do
  let name ← attributes.required "bind" "name"
  let source ← attributes.required "bind" "value"
  let e ← Expr.parse source
  let value ← e.eval scope.resolve?
  return (Text.trimmed name, value)

/-- The truth of the condition of an element. -/
def condition (name : String) (attributes : Attributes) : Render σ Bool := do
  test (← attributes.required name "test")

/-- What comes of the result of a step and the session it leaves; nothing after an error. -/
def after (step : Render σ α) (entries : α → Session σ → List (String × Json)) (s : Session σ) :
    List (String × Json) :=
  match step.run s with
  | (.ok a, s') => entries a s'
  | (.error _, _) => []

section After

variable {step : Render σ α} {entries : α → Session σ → List (String × Json)} {s s' : Session σ}

lemma after_of_ok {a : α} (h : step.run s = (.ok a, s')) :
    after step entries s = entries a s' := by
  rw [after, h]

lemma after_of_error {e : SqlError} (h : step.run s = (.error e, s')) :
    after step entries s = [] := by
  rw [after, h]

lemma sublist_after {names : List String}
    (h : ∀ a s', ((entries a s').map Prod.fst).Sublist names) :
    ((after step entries s).map Prod.fst).Sublist names := by
  rcases hrun : step.run s with ⟨r, s'⟩
  cases r with
  | error e => simp [after_of_error hrun]
  | ok a =>
    rw [after_of_ok hrun]
    exact h a s'

end After

section Bindings

variable (setting : Setting σ) (included : Inclusion → Render σ String)

mutual

/-- The bindings that are evaluated when a node is rendered, outside of loops and includes. -/
def nodeBindings : Node → Session σ → List (String × Json)
  | .text _, _ => []
  | .element name attributes children, s =>
    match Tag.ofName? name with
    | some .conditional =>
      after (condition name attributes) (fun b s => if b then nodesBindings children s else []) s
    | some .choice => choiceBindings children s
    | some .trim | some .conditions | some .assignments => nodesBindings children s
    | some .binding => (binding attributes s.scope).toOption.toList
    | some .loop | some .inclusion | none => []

/-- The bindings that are evaluated when nodes are rendered one after the other. -/
def nodesBindings : List Node → Session σ → List (String × Json)
  | [], _ => []
  | n :: rest, s =>
    nodeBindings n s ++ after (node setting included n) (fun _ s => nodesBindings rest s) s

/-- The bindings that are evaluated in the first alternative whose condition holds. -/
def choiceBindings : List Node → Session σ → List (String × Json)
  | [], _ => []
  | .text _ :: rest, s => choiceBindings rest s
  | .element name attributes children :: rest, s =>
    if smallName name = "when" then
      after (condition name attributes)
        (fun b s => if b then nodesBindings children s else choiceBindings rest s) s
    else if smallName name = "otherwise" then nodesBindings children s
    else []

end

end Bindings

/-! ### Frames below the topmost one -/

/-- The step leaves the scope as it is. -/
def KeepsScope (step : Render σ α) : Prop := ∀ s : Session σ, (step.run s).2.scope = s.scope

/-- The step leaves all but the topmost frame as it is. -/
def KeepsBelow (step : Render σ α) : Prop :=
  ∀ s : Session σ, (step.run s).2.scope.base = s.scope.base ∧
    (step.run s).2.scope.below = s.scope.below

namespace KeepsScope

lemma below {step : Render σ α} (h : KeepsScope step) : KeepsBelow step := by
  intro s
  rw [h s]
  exact ⟨rfl, rfl⟩

lemma lift (r : SqlResult α) : KeepsScope (liftM r : Render σ α) := fun _ => rfl

lemma bind {step : Render σ α} {next : α → Render σ β} (h : KeepsScope step)
    (hnext : ∀ a, KeepsScope (next a)) : KeepsScope (step >>= next) := by
  intro s
  have hs := h s
  rcases run_bind_cases step next s with ⟨e, s', hrun, hbind⟩ | ⟨a, s', hrun, hbind⟩
  · rw [hbind, ← hs, hrun]
  · rw [hbind, hnext a s', ← hs, hrun]

lemma scope : KeepsScope (Render.scope : Render σ Scope) := fun _ => rfl

lemma record (e : Event) : KeepsScope (Render.record e : Render σ Unit) := fun _ => rfl

/-- The frame that was pushed is popped again. -/
lemma withFrame {step : Render σ α} (h : KeepsBelow step) (frame : KeyMap Json) :
    KeepsScope (Render.withFrame frame step) := by
  intro s
  obtain ⟨hbase, hbelow⟩ := h { s with scope := s.scope.push frame }
  rw [run_withFrame]
  simp only [Scope.pop, hbase, hbelow]
  rfl

lemma expand (setting : Setting σ) (text : String) : KeepsScope (Render.expand setting text) := by
  intro s
  rw [run_expand]
  split
  · cases setting.expand text s.scope.flatten s.expansion <;> rfl
  · rfl

lemma replaceMarkers (setting : Setting σ) (text : String) :
    KeepsScope (Render.replaceMarkers setting text) := fun _ => rfl

lemma test (source : String) : KeepsScope (Render.test source : Render σ Bool) := by
  refine scope.bind fun sc => ?_
  dsimp only
  cases (Expr.parse source).bind (·.test sc.resolve?) with
  | ok b => exact lift (.ok b)
  | error e => exact (record _).bind fun _ => lift (.ok false)

lemma condition (name : String) (attributes : Attributes) :
    KeepsScope (Render.condition name attributes : Render σ Bool) :=
  (lift _).bind fun source => test source

lemma forEntries {body : Render σ String} (h : KeepsBelow body) (item : String)
    (index? : Option String) (found : List (Json × Json)) :
    KeepsScope (Render.forEntries item index? body found) := by
  induction found with
  | nil => exact lift (.ok [])
  | cons entry found ih =>
    exact (withFrame h _).bind fun text => ih.bind fun texts => lift (.ok _)

lemma loop {body : Render σ String} (h : KeepsBelow body) (attributes : Attributes) :
    KeepsScope (Render.loop attributes body) := by
  refine (lift _).bind fun collection => scope.bind fun sc => (lift _).bind fun found => ?_
  exact (forEntries h _ _ found).bind fun texts => lift (.ok _)

lemma findInclusion (setting : Setting σ) (attributes : Attributes) (children : List Node) :
    KeepsScope (Render.findInclusion setting attributes children) := by
  refine (lift _).bind fun written => (replaceMarkers setting written).bind fun reference => ?_
  refine (lift _).bind fun frame => ?_
  split
  · exact lift (.ok _)
  · exact lift (.error _)

end KeepsScope

lemma keepsBelow_congruence :
    Congruence fun {α} (step : Render σ α) (_ : Render σ α) => KeepsBelow step where
  lift _ := (KeepsScope.lift _).below
  bind {_ _ step _ next _} hstep hnext s := by
    have hs := hstep s
    rcases run_bind_cases step next s with ⟨e, s', hrun, hbind⟩ | ⟨a, s', hrun, hbind⟩
    · rw [hbind]
      rwa [hrun] at hs
    · rw [hrun] at hs
      rw [hbind]
      exact ⟨(hnext a s').1.trans hs.1, (hnext a s').2.trans hs.2⟩
  scope := KeepsScope.scope.below
  record e := (KeepsScope.record e).below
  setValue _ _ _ := ⟨rfl, rfl⟩
  withFrame frame h := (KeepsScope.withFrame h frame).below

lemma corresponds_keepsBelow (setting : Setting σ) :
    Corresponds (fun {α} (step : Render σ α) (_ : Render σ α) => KeepsBelow step) setting
      setting where
  namespaces := rfl
  fragments := rfl
  dialect := rfl
  expand text := (KeepsScope.expand setting text).below
  missing _ _ := (KeepsScope.lift _).below

lemma keepsScope_include (setting : Setting σ) (room : Nat) (found : Inclusion) :
    KeepsScope (includeWithin setting room found) := by
  induction room generalizing found with
  | zero => exact KeepsScope.lift (.error _)
  | succ room ih =>
    rw [includeWithin]
    refine KeepsScope.withFrame ?_ found.frame
    exact nodes_kept keepsBelow_congruence (corresponds_keepsBelow setting)
      (fun found => (ih found).below) found.nodes

/-! ### The topmost frame -/

/-- The step puts some entries into the topmost frame, which depend on the session, and leaves the
rest of the scope as it is. -/
def Binds (step : Render σ α) (entries : Session σ → List (String × Json)) : Prop :=
  ∀ s : Session σ, (step.run s).2.scope = s.scope.bind (entries s)

lemma KeepsScope.binds {step : Render σ α} (h : KeepsScope step) : Binds step fun _ => [] := h

namespace Binds

variable {step : Render σ α} {entries : Session σ → List (String × Json)}

/-- A step, and another one after it unless it fails. -/
lemma bind {next : α → Render σ β} {entries' : α → Session σ → List (String × Json)}
    (h : Binds step entries) (hnext : ∀ a, Binds (next a) (entries' a)) :
    Binds (step >>= next) fun s => entries s ++ after step entries' s := by
  intro s
  have hs := h s
  dsimp only
  rcases run_bind_cases step next s with ⟨e, s', hrun, hbind⟩ | ⟨a, s', hrun, hbind⟩
  · rw [after_of_error hrun, hbind, List.append_nil, ← hs, hrun]
  · rw [after_of_ok hrun, hbind, hnext a s', Scope.bind_append, ← hs, hrun]

/-- What is made of the result of a step binds nothing. -/
lemma map (h : Binds step entries) (f : α → β) :
    Binds (step >>= fun a => pure (f a)) entries := by
  intro s
  rw [← h s]
  rcases run_bind_cases step (fun a => pure (f a)) s with ⟨e, s', hrun, hbind⟩ | ⟨a, s', hrun, hbind⟩
  · rw [hbind, hrun]
  · rw [hbind, hrun, run_pure]

lemma conditional {name : String} {attributes : Attributes} {step step' : Render σ String}
    {entries entries' : Session σ → List (String × Json)} (h : Binds step entries)
    (h' : Binds step' entries') :
    Binds (do if ← test (← attributes.required name "test") then step else step')
      (after (condition name attributes) fun b s => if b then entries s else entries' s) := by
  have hcondition : (do if ← test (← attributes.required name "test") then step else step')
      = (condition name attributes >>= fun b => if b then step else step') :=
    (bind_assoc _ _ _).symm
  rw [hcondition]
  refine (KeepsScope.condition name attributes).binds.bind fun b => ?_
  cases b with
  | true => exact h
  | false => exact h'

lemma bindValue (attributes : Attributes) :
    Binds (Render.bindValue attributes : Render σ Unit) fun s =>
      (binding attributes s.scope).toOption.toList := by
  intro s
  simp only [Render.bindValue, binding, run_bind, run_lift, run_scope, run_setValue]
  cases attributes.required "bind" "name" with
  | error e => rfl
  | ok name =>
    cases attributes.required "bind" "value" with
    | error e => rfl
    | ok source =>
      dsimp only [Bind.bind, Except.bind]
      cases Expr.parse source with
      | error e => rfl
      | ok e =>
        dsimp only
        cases e.eval s.scope.resolve? <;> rfl

end Binds

section Nodes

set_option linter.unusedSectionVars false

variable {setting : Setting σ} {included : Inclusion → Render σ String}
  (hincluded : ∀ found, KeepsScope (included found))

include hincluded

mutual

lemma node_binds : (n : Node) → Binds (node setting included n) (nodeBindings setting included n)
  | .text text => by
    have htext : KeepsScope (expand setting text >>= replaceMarkers setting) :=
      (KeepsScope.expand setting text).bind fun text => KeepsScope.replaceMarkers setting text
    rw [node]
    intro s
    rw [nodeBindings]
    exact htext.binds s
  | .element name attributes children => by
    have hnodes := nodes_binds children
    intro s
    rw [node, nodeBindings]
    cases Tag.ofName? name with
    | none => exact (KeepsScope.lift (.error _)).binds s
    | some tag =>
      cases tag with
      | conditional =>
        exact hnodes.conditional (KeepsScope.lift (.ok "")).binds s
      | choice => exact choice_binds children s
      | trim => exact hnodes.map _ s
      | conditions => exact hnodes.map _ s
      | assignments => exact hnodes.map _ s
      | loop =>
        have hbody : KeepsBelow (inkedNodes setting included children) :=
          inkedNodes_kept keepsBelow_congruence (corresponds_keepsBelow setting)
            (fun found => (hincluded found).below) children
        exact (KeepsScope.loop hbody attributes).binds s
      | binding => exact (Binds.bindValue attributes).map _ s
      | inclusion =>
        have hfound := (KeepsScope.findInclusion setting attributes children).bind hincluded
        exact hfound.binds s

lemma nodes_binds :
    (ns : List Node) → Binds (nodes setting included ns) (nodesBindings setting included ns)
  | [] => by
    intro s
    rw [nodes, nodesBindings]
    rfl
  | n :: rest => by
    have hrest : ∀ text : String, Binds (do return text ++ (← nodes setting included rest))
        (nodesBindings setting included rest) := fun text => (nodes_binds rest).map _
    intro s
    rw [nodes, nodesBindings]
    exact (node_binds n).bind hrest s

lemma choice_binds :
    (ns : List Node) → Binds (choice setting included ns) (choiceBindings setting included ns)
  | [] => by
    intro s
    rw [choice, choiceBindings]
    rfl
  | .text text :: rest => by
    intro s
    rw [choice, choiceBindings]
    exact choice_binds rest s
  | .element name attributes children :: rest => by
    have hnodes := nodes_binds children
    intro s
    rw [choice, choiceBindings]
    by_cases hwhen : smallName name = "when"
    · rw [if_pos hwhen, if_pos hwhen]
      exact hnodes.conditional (choice_binds rest) s
    · rw [if_neg hwhen, if_neg hwhen]
      by_cases hotherwise : smallName name = "otherwise"
      · rw [if_pos hotherwise, if_pos hotherwise]
        exact hnodes s
      · rw [if_neg hotherwise, if_neg hotherwise]
        rfl

end

end Nodes

/-! ### Names -/

lemma sublist_binding (attributes : Attributes) (scope : Scope) :
    ((binding attributes scope).toOption.toList.map Prod.fst).Sublist
      [Text.trimmed (attributes.getD "name" "")] := by
  cases hbinding : binding attributes scope with
  | error e => exact List.nil_sublist _
  | ok entry =>
    obtain ⟨name, hname, hrest⟩ := SqlResult.bind_eq_ok.mp hbinding
    obtain ⟨source, -, hrest⟩ := SqlResult.bind_eq_ok.mp hrest
    obtain ⟨e, -, hrest⟩ := SqlResult.bind_eq_ok.mp hrest
    obtain ⟨value, -, hentry⟩ := SqlResult.bind_eq_ok.mp hrest
    have hget : attributes.getD "name" "" = name := by
      rw [Attributes.getD, Attributes.get?_of_required hname, Option.getD_some]
    rw [hget, ← SqlResult.pure_eq_ok.mp hentry]
    exact List.Sublist.refl _

section Names

variable (setting : Setting σ) (included : Inclusion → Render σ String)

mutual

lemma sublist_nodeBindings : (n : Node) → (s : Session σ) →
    ((nodeBindings setting included n s).map Prod.fst).Sublist n.boundNames
  | .text text, s => by
    rw [nodeBindings]
    exact List.nil_sublist _
  | .element name attributes children, s => by
    have hnodes := sublist_nodesBindings children
    rw [nodeBindings, Node.boundNames]
    cases Tag.ofName? name with
    | none => exact List.nil_sublist _
    | some tag =>
      cases tag with
      | conditional =>
        refine sublist_after fun b s' => ?_
        cases b with
        | true => exact hnodes s'
        | false => exact List.nil_sublist _
      | choice => exact sublist_choiceBindings children s
      | trim => exact hnodes s
      | conditions => exact hnodes s
      | assignments => exact hnodes s
      | loop => exact List.nil_sublist _
      | binding => exact sublist_binding attributes s.scope
      | inclusion => exact List.nil_sublist _

lemma sublist_nodesBindings : (ns : List Node) → (s : Session σ) →
    ((nodesBindings setting included ns s).map Prod.fst).Sublist (boundNames ns)
  | [], s => by
    rw [nodesBindings]
    exact List.nil_sublist _
  | n :: rest, s => by
    rw [nodesBindings, boundNames, List.map_append]
    apply (sublist_nodeBindings n s).append
    exact sublist_after fun _ s' => sublist_nodesBindings rest s'

lemma sublist_choiceBindings : (ns : List Node) → (s : Session σ) →
    ((choiceBindings setting included ns s).map Prod.fst).Sublist (alternativeNames ns)
  | [], s => by
    rw [choiceBindings]
    exact List.nil_sublist _
  | .text text :: rest, s => by
    rw [choiceBindings, alternativeNames]
    exact sublist_choiceBindings rest s
  | .element name attributes children :: rest, s => by
    have hnodes := fun s => (sublist_nodesBindings children s).trans
      (List.sublist_append_left _ (alternativeNames rest))
    have hrest := fun s => (sublist_choiceBindings rest s).trans
      (List.sublist_append_right (boundNames children) _)
    rw [choiceBindings, alternativeNames]
    by_cases hwhen : smallName name = "when"
    · rw [if_pos hwhen]
      refine sublist_after fun b s' => ?_
      cases b with
      | true => exact hnodes s'
      | false => exact hrest s'
    · rw [if_neg hwhen]
      by_cases hotherwise : smallName name = "otherwise"
      · rw [if_pos hotherwise]
        exact hnodes s
      · rw [if_neg hotherwise]
        exact List.nil_sublist _

end

end Names

/-- Rendering a node leaves the frames below the topmost one and the number of open includes as
they were. Into the topmost frame it puts what the `bind` elements give that are evaluated in the
node outside of loops and includes, one after the other; no other name changes its value there. -/
theorem node_scope (setting : Setting σ) (count : Nat) (n : Node) (s : Session σ) :
    let included := includeWithin setting (maxIncludes - count)
    let rendered := (node setting included n).run s
    let bound := nodeBindings setting included n s
    rendered.2.scope.base = s.scope.base ∧
    rendered.2.scope.frames.length = s.scope.frames.length ∧
    rendered.2.scope.below = s.scope.below ∧
    rendered.2.scope.top = s.scope.top.overlay bound ∧
    (bound.map Prod.fst).Sublist n.boundNames ∧
    (∀ key ∉ n.boundNames, KeyMap.get? key rendered.2.scope.top = KeyMap.get? key s.scope.top) ∧
    (node setting.counting (includeCounting setting maxIncludes) n).run (s.counting count) =
      (rendered.1, rendered.2.counting count) := by
  intro included rendered bound
  have hscope : rendered.2.scope = s.scope.bind bound :=
    node_binds (keepsScope_include setting _) n s
  have hnames : (bound.map Prod.fst).Sublist n.boundNames :=
    sublist_nodeBindings setting included n s
  have hcount := sameWithCount_node setting count n s
  rw [hscope]
  refine ⟨rfl, rfl, rfl, rfl, hnames, fun key hkey => ?_, hcount⟩
  exact KeyMap.get?_foldl_insert_of_notMem (fun hmem => hkey (hnames.subset hmem)) _

end Render

end Markup

end QueryLoom

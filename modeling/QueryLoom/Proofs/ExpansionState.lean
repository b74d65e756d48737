import QueryLoom.Proofs.RenderSteps
import QueryLoom.Template.Store

/-!
# What rendering does to an expansion

The renderings for one request share an expansion. Whatever is rendered, of a template, of templates
inserted into it or of a document with templates in its texts, the kind of the request, its order,
its dialect and its enumerations stay; only that the order has been written can be noted.
-/

namespace QueryLoom

/-- An expansion after some more has been rendered. -/
structure Expansion.Follows (x x' : Expansion) : Prop where
  kind : x'.kind = x.kind
  orderBy : x'.orderBy? = x.orderBy?
  dialect : x'.dialect = x.dialect
  enums : x'.enums = x.enums
  written : x.orderWritten = true → x'.orderWritten = true

namespace Expansion

lemma Follows.refl (x : Expansion) : x.Follows x := ⟨rfl, rfl, rfl, rfl, id⟩

lemma Follows.trans {x y z : Expansion} (h : x.Follows y) (h' : y.Follows z) : x.Follows z where
  kind := h'.kind.trans h.kind
  orderBy := h'.orderBy.trans h.orderBy
  dialect := h'.dialect.trans h.dialect
  enums := h'.enums.trans h.enums
  written hx := h'.written (h.written hx)

end Expansion

lemma SqlBlock.follows_enter (b : SqlBlock) (x : Expansion) : x.Follows (b.enter x).2 := by
  unfold enter
  split
  · exact .refl x
  · dsimp only
    split
    · exact ⟨rfl, rfl, rfl, rfl, fun _ => rfl⟩
    · exact .refl x

namespace Template

namespace Rendering

variable {α β : Type}

/-! ### Steps -/

/-- The step leaves an expansion that follows the one in `s`. -/
def KeepsFrom (s : RenderState) (step : Rendering α) : Prop :=
  ∀ a s', step.run s = .ok (a, s') → s.expansion.Follows s'.expansion

/-- The step leaves an expansion that follows the one before it. -/
def Keeps (step : Rendering α) : Prop := ∀ s, KeepsFrom s step

/-- The content leaves such an expansion wherever it is rendered. -/
def KeepsContent (content? : Option Content) : Prop :=
  ∀ content ∈ content?, ∀ p, Keeps (content p)

lemma keepsContent_none : KeepsContent none := nofun

lemma keepsContent_some {content : Content} (h : ∀ p, Keeps (content p)) :
    KeepsContent (some content) := by
  rintro _ ⟨⟩
  exact h

section

variable {s : RenderState}

lemma keepsFrom_bind {step : Rendering α} {next : α → Rendering β} (hstep : KeepsFrom s step)
    (hnext : ∀ a, Keeps (next a)) : KeepsFrom s (step >>= next) := by
  intro b s'' h
  rw [StateT.run_bind] at h
  cases hrun : step.run s with
  | error reason => rw [hrun] at h; cases h
  | ok found =>
    rw [hrun] at h
    exact (hstep _ _ hrun).trans (hnext found.1 found.2 b s'' h)

lemma keepsFrom_get_bind {next : RenderState → Rendering β} (h : KeepsFrom s (next s)) :
    KeepsFrom s (get >>= next) := h

lemma keepsFrom_lift_bind (r : Except String α) {next : α → Rendering β}
    (hnext : ∀ a, KeepsFrom s (next a)) : KeepsFrom s ((liftM r : Rendering α) >>= next) := by
  intro b s' h
  cases r with
  | error reason => cases h
  | ok a => exact hnext a b s' h

lemma keepsFrom_modify {f : RenderState → RenderState}
    (h : s.expansion.Follows (f s).expansion) : KeepsFrom s (modify f) := by
  rintro _ _ ⟨⟩
  exact h

lemma keepsFrom_set {s' : RenderState} (h : s.expansion.Follows s'.expansion) :
    KeepsFrom s (set s') := by
  rintro _ _ ⟨⟩
  exact h

end

lemma keeps_bind {step : Rendering α} {next : α → Rendering β} (hstep : Keeps step)
    (hnext : ∀ a, Keeps (next a)) : Keeps (step >>= next) :=
  fun s => keepsFrom_bind (hstep s) hnext

lemma keeps_pure (a : α) : Keeps (pure a : Rendering α) := by
  rintro s _ _ ⟨⟩
  exact .refl _

lemma keeps_lift (r : Except String α) : Keeps (liftM r : Rendering α) := by
  intro s a s' h
  cases r with
  | error reason => cases h
  | ok a => cases h; exact .refl _

lemma keeps_fail (reason : String) : Keeps (fail reason : Rendering α) :=
  keeps_lift (.error reason)

lemma keeps_modify {f : RenderState → RenderState}
    (h : ∀ s : RenderState, s.expansion.Follows (f s).expansion) : Keeps (modify f) :=
  fun s => keepsFrom_modify (h s)

/-! ### Content -/

lemma keeps_orElse {alternative? : Option Content} (h : KeepsContent alternative?) (p : Place) :
    Keeps (orElse p alternative?) := by
  cases alternative? with
  | none => exact keeps_pure ""
  | some content => exact h content rfl p

lemma keeps_inLayers {content : Content} (h : ∀ p, Keeps (content p)) (p : Place)
    (layers : List Layer) : Keeps (inLayers p content layers) := by
  induction layers with
  | nil => exact keeps_pure ""
  | cons l layers ih =>
    refine keeps_bind (h _) fun text => ?_
    exact keeps_bind ih fun more => keeps_pure _

section

variable {content alternative? : Option Content} (hcontent : KeepsContent content)
  (halternative : KeepsContent alternative?) (p : Place) (given : Given)

include hcontent halternative

lemma keeps_eachOf (found : Found) : Keeps (eachOf p given found content alternative?) := by
  cases content with
  | none => exact keeps_pure ""
  | some content =>
    have hrounds := keeps_inLayers (hcontent content rfl) p
    have helse := keeps_orElse halternative p
    unfold eachOf
    dsimp only
    split
    · exact helse
    · exact hrounds _
    · exact helse
    · exact hrounds _
    · exact helse

lemma keeps_within (found : Found) : Keeps (within p given found content alternative?) := by
  unfold within
  split
  · exact keeps_orElse hcontent _
  · exact keeps_orElse halternative p

lemma keeps_sectionBlock (name : String) :
    Keeps (sectionBlock p name content alternative?) := by
  refine keeps_bind (keeps_lift _) fun found => ?_
  dsimp only
  split
  · cases content with
    | none => exact keeps_pure ""
    | some content =>
      refine keeps_bind (keeps_lift _) fun current => ?_
      split
      · exact keeps_inLayers (hcontent content rfl) p _
      · exact hcontent content rfl p
  · exact keeps_orElse halternative p

omit halternative in
/-- A block of SQL notes that the order is written and nothing else. -/
lemma keeps_sqlBlock (b : SqlBlock) : Keeps (sqlBlock p b content) := by
  intro s
  refine keepsFrom_get_bind ?_
  have hentered := b.follows_enter s.expansion
  dsimp only
  cases henter : b.enter s.expansion with
  | mk text? entered =>
    rw [henter] at hentered
    refine keepsFrom_bind (keepsFrom_modify hentered) fun _ => ?_
    cases text? with
    | some text => exact keeps_pure text
    | none =>
      refine keeps_bind (keeps_orElse hcontent p) fun text => ?_
      exact fun s => keepsFrom_get_bind (keeps_pure _ s)

lemma keeps_runHelper (h : Helper) (name : String) :
    Keeps (runHelper p h name given content alternative?) := by
  have hfirst : Keeps (firstOf given) := by
    unfold firstOf
    split
    · exact keeps_pure _
    · exact keeps_fail _
  cases h with
  | conditional positive =>
    refine keeps_bind hfirst fun a => ?_
    dsimp only
    generalize (isTruthy _ a.value == positive) = holds
    cases holds with
    | true => exact keeps_orElse hcontent p
    | false => exact keeps_orElse halternative p
  | each => exact keeps_bind hfirst fun a => keeps_eachOf hcontent halternative p given a
  | within => exact keeps_bind hfirst fun a => keeps_within hcontent halternative p given a
  | verbatim => exact keeps_orElse hcontent p
  | log =>
    change Keeps (if logs given.named then pure "" else fail "unknown level")
    split
    · exact keeps_pure ""
    · exact keeps_fail _
  | sectionBlock => exact keeps_sectionBlock hcontent halternative p name
  | sql b => exact keeps_sqlBlock hcontent p b

end

/-! ### Arguments -/

lemma keeps_callValue (p : Place) (name : String) (given : Given) :
    Keeps (callValue p name given) := by
  unfold callValue
  split
  · exact keeps_bind (keeps_lift _) fun v => keeps_pure _
  · split
    · next h _ =>
      exact keeps_bind (keeps_runHelper keepsContent_none keepsContent_none p given h name)
        fun text => keeps_pure _
    · exact keeps_fail _

mutual

lemma keeps_argument (p : Place) : (a : Argument) → Keeps (argument p a)
  | .literal v => by
    rw [argument]
    exact keeps_pure _
  | .reference r => by
    rw [argument]
    exact keeps_lift _
  | .call name positional named => by
    rw [argument]
    refine keeps_bind (keeps_arguments p positional) fun positional => ?_
    refine keeps_bind (keeps_namedArguments p named) fun named => ?_
    exact keeps_callValue p name ⟨positional, named, []⟩

lemma keeps_arguments (p : Place) : (as : List Argument) → Keeps (arguments p as)
  | [] => by
    rw [arguments]
    exact keeps_pure []
  | a :: rest => by
    rw [arguments]
    refine keeps_bind (keeps_argument p a) fun v => ?_
    exact keeps_bind (keeps_arguments p rest) fun more => keeps_pure _

lemma keeps_namedArguments (p : Place) :
    (as : List (String × Argument)) → Keeps (namedArguments p as)
  | [] => by
    rw [namedArguments]
    exact keeps_pure []
  | (name, a) :: rest => by
    rw [namedArguments]
    refine keeps_bind (keeps_argument p a) fun v => ?_
    exact keeps_bind (keeps_namedArguments p rest) fun more => keeps_pure _

end

lemma keeps_given (p : Place) (i : Invocation) : Keeps (given p i) := by
  refine keeps_bind (keeps_arguments p i.positional) fun positional => ?_
  exact keeps_bind (keeps_namedArguments p i.named) fun named => keeps_pure _

lemma keeps_nameOf (p : Place) (target : Target) : Keeps (nameOf p target) := by
  cases target with
  | name s => exact keeps_pure s
  | reference r => exact keeps_pure r.text
  | computed a => exact keeps_bind (keeps_argument p a) fun found => keeps_pure _

/-! ### Values and blocks -/

lemma keeps_of_runNamed {content alternative? : Option Content} (hcontent : KeepsContent content)
    (halternative : KeepsContent alternative?) (p : Place) (name : String) (i : Invocation) :
    ∀ step ∈ runNamed p name i content alternative?, Keeps step := by
  unfold runNamed
  intro step hstep
  split at hstep
  · obtain rfl := Option.some.inj hstep
    refine keeps_bind (keeps_given p i) fun args => ?_
    exact keeps_bind (keeps_lift _) fun v? => keeps_pure _
  · obtain ⟨h, -, rfl⟩ := Option.map_eq_some_iff.mp hstep
    refine keeps_bind (keeps_given p i) fun args => ?_
    exact keeps_runHelper hcontent halternative p args h name

lemma keeps_output (p : Place) (i : Invocation) : Keeps (output p i) := by
  refine keeps_bind (keeps_nameOf p i.target) fun name => ?_
  have hnamed := keeps_of_runNamed keepsContent_none keepsContent_none p name i
  split
  · next step hstep => exact hnamed step hstep
  · cases i.target with
    | name s => exact keeps_fail _
    | reference r => exact keeps_bind (keeps_lift _) fun found => keeps_pure _
    | computed a => exact keeps_bind (keeps_argument p a) fun found => keeps_pure _

lemma keeps_block {content alternative? : Option Content} (hcontent : KeepsContent content)
    (halternative : KeepsContent alternative?) (p : Place) (i : Invocation) :
    Keeps (block p i content alternative?) := by
  refine keeps_bind (keeps_nameOf p i.target) fun name => ?_
  have hnamed := keeps_of_runNamed hcontent halternative p name i
  split
  · next step hstep => exact hnamed step hstep
  · refine keeps_bind (keeps_given p i) fun args => ?_
    exact keeps_sectionBlock hcontent halternative p name

/-! ### Definitions -/

lemma keeps_define (p : Place) (i : Invocation) (body : List Node) : Keeps (define p i body) := by
  refine keeps_bind (keeps_nameOf p i.target) fun name => ?_
  refine keeps_bind (keeps_given p i) fun args => ?_
  dsimp only
  split
  · refine keeps_bind (keeps_fail _) fun _ => ?_
    split
    · exact keeps_modify fun _ => .refl _
    · exact keeps_fail _
  · split
    · exact keeps_modify fun _ => .refl _
    · exact keeps_fail _

lemma keeps_defineAll (p : Place) (ns : List Node) : Keeps (defineAll p ns) := by
  induction ns with
  | nil => exact keeps_pure ()
  | cons n ns ih =>
    cases n with
    | definition i body => exact keeps_bind (keeps_define p i body) fun _ => ih
    | foreignUse => exact keeps_fail _
    | _ => exact ih

lemma keeps_asContent {render : Place → Rendering String} (h : ∀ p, Keeps (render p)) (p : Place) :
    Keeps (asContent render p) :=
  keeps_bind (keeps_modify fun _ => .refl _) fun _ => h p

/-! ### Nodes -/

section

set_option linter.unusedSectionVars false

variable {inserted : Place → Insertion → Rendering String}
  (hinserted : ∀ p i, Keeps (inserted p i))

include hinserted

mutual

lemma keeps_node (p : Place) : (n : Node) → Keeps (node inserted p n)
  | .text s => by
    rw [node]
    exact keeps_pure s
  | .output i => by
    rw [node]
    exact keeps_output p i
  | .block i body none => by
    rw [node]
    refine keeps_block (keepsContent_some fun q => ?_) keepsContent_none p i
    exact keeps_asContent (fun q => keeps_nodes q body) q
  | .block i body (some alternative) => by
    rw [node]
    refine keeps_block (keepsContent_some fun q => ?_) (keepsContent_some fun q => ?_) p i
    · exact keeps_asContent (fun q => keeps_nodes q body) q
    · exact keeps_asContent (fun q => keeps_nodes q alternative) q
  | .insertion i content? => by
    rw [node]
    refine keeps_bind (keeps_nameOf p i.target) fun name => ?_
    exact keeps_bind (keeps_given p i) fun args => hinserted p ⟨name, args, content?⟩
  | .definition i body => by
    rw [node]
    exact keeps_bind (keeps_define p i body) fun _ => keeps_pure ""
  | .foreignUse => by
    rw [node]
    exact keeps_fail _

lemma keeps_nodes (p : Place) : (ns : List Node) → Keeps (nodes inserted p ns)
  | [] => by
    rw [nodes]
    exact keeps_pure ""
  | n :: rest => by
    rw [nodes]
    refine keeps_bind (keeps_node p n) fun text => ?_
    exact keeps_bind (keeps_nodes p rest) fun more => keeps_pure _

end

end

/-! ### Inserted templates -/

section

variable (registered? : String → Option (List Node))

lemma keeps_findTemplate (p : Place) (i : Insertion) : Keeps (findTemplate registered? p i) := by
  intro s
  refine keepsFrom_get_bind ?_
  dsimp only
  split
  · exact keeps_pure _ s
  · exact keeps_pure _ s
  · exact keeps_pure _ s
  · exact keeps_fail _ s

/-- The definitions that an inserted template made are forgotten after it, the expansion is not. -/
lemma keeps_insertedWithin (budget : Nat) (p : Place) (i : Insertion) :
    Keeps (insertedWithin registered? budget p i) := by
  induction budget generalizing p i with
  | zero => exact keeps_fail _
  | succ budget ih =>
    have hinside : ∀ template name?, Keeps (do
        let before ← get
        let inside ← insertionPlace p i
        set { before with current? := name? }
        let text ← nodes (insertedWithin registered? budget) inside template
        modify fun s => { before with expansion := s.expansion }
        return text) := by
      intro template name? s
      refine keepsFrom_get_bind (keepsFrom_lift_bind _ fun inside => ?_)
      refine keepsFrom_bind (keepsFrom_set (.refl _)) fun _ => ?_
      refine keeps_bind (keeps_nodes ih inside template) fun text => ?_
      exact keeps_bind (keeps_modify fun _ => .refl _) fun _ => keeps_pure text
    have htemplate := keeps_bind (keeps_findTemplate registered? p i)
      fun found => hinside found.1 found.2
    rw [insertedWithin]
    refine keeps_bind (keeps_defineAll p _) fun _ s => keepsFrom_get_bind ?_
    dsimp only
    split
    · exact keeps_bind (keeps_fail _) (fun _ => htemplate) s
    · exact htemplate s

end

end Rendering

/-! ### Templates -/

lemma follows_of_render {registered? : String → Option (List Node)} {name? : Option String}
    {template : List Node} {view : Json} {x x' : Expansion} {text : String}
    (h : render registered? name? template view x = .ok (text, x')) : x.Follows x' := by
  have hkeeps := Rendering.keeps_nodes
    (Rendering.keeps_insertedWithin registered? Rendering.maxInsertions)
    ⟨.ofView view, [], 0⟩ template ⟨x, [], name?⟩
  rw [render] at h
  dsimp only at h
  cases hrun : Rendering.nodes (Rendering.insertedWithin registered? Rendering.maxInsertions)
      ⟨.ofView view, [], 0⟩ template ⟨x, [], name?⟩ with
  | error reason => rw [hrun] at h; cases h
  | ok found =>
    rw [hrun] at h
    cases h
    exact hkeeps _ _ hrun

namespace Store

variable {s : Store} {view : Json} {x x' : Expansion}

lemma follows_of_render {name text : String} (h : s.render name view x = .ok (text, x')) :
    x.Follows x' := by
  unfold render at h
  split at h
  · cases h
  · split at h
    · next hrender =>
      obtain rfl := Except.ok.inj h
      exact Template.follows_of_render hrender
    · cases h

lemma follows_of_renderText {source text : String}
    (h : s.renderText source view x = .ok (text, x')) : x.Follows x' := by
  unfold renderText at h
  split at h
  · cases h
    exact .refl x
  · split at h
    · next hrender =>
      obtain rfl := Except.ok.inj h
      cases hparse : Node.parse source with
      | error reason => rw [hparse] at hrender; cases hrender
      | ok nodes =>
        rw [hparse] at hrender
        exact Template.follows_of_render hrender
    · cases h

end Store

end Template

/-! ### Documents -/

namespace Markup.Render

/-- The step leaves an expansion that follows the one before it, also where it fails. -/
def KeepsExpansion {α : Type} (step : Render Expansion α) : Prop :=
  ∀ s : Session Expansion, s.expansion.Follows (step.run s).2.expansion

lemma keepsExpansion_congruence :
    Congruence fun {α} (step : Render Expansion α) (_ : Render Expansion α) =>
      KeepsExpansion step where
  lift _ s := .refl s.expansion
  bind {_ _ step _ next _} hstep hnext s := by
    rcases run_bind_cases step next s with ⟨e, s', hrun, hbind⟩ | ⟨a, s', hrun, hbind⟩
    · rw [hbind]
      simpa [hrun] using hstep s
    · rw [hbind]
      have hfirst := hstep s
      rw [hrun] at hfirst
      exact hfirst.trans (hnext a s')
  scope s := .refl s.expansion
  record _ s := .refl s.expansion
  setValue _ _ s := .refl s.expansion
  withFrame frame hstep s := hstep { s with scope := s.scope.push frame }

variable {setting : Setting Expansion} {s : Template.Store}

lemma keepsExpansion_expand (h : setting.expand = s.renderText) (text : String) :
    KeepsExpansion (expand setting text) := by
  intro session
  rw [run_expand, h]
  split
  · split
    · next hrender => exact Template.Store.follows_of_renderText hrender
    · exact .refl session.expansion
  · exact .refl session.expansion

lemma corresponds_keepsExpansion (h : setting.expand = s.renderText) :
    Corresponds (fun {α} (step : Render Expansion α) (_ : Render Expansion α) =>
      KeepsExpansion step) setting setting where
  namespaces := rfl
  fragments := rfl
  dialect := rfl
  expand := keepsExpansion_expand h
  missing _ _ session := .refl session.expansion

lemma keepsExpansion_document (h : setting.expand = s.renderText) (ns : List Node) :
    KeepsExpansion (document setting ns) :=
  document_related keepsExpansion_congruence (corresponds_keepsExpansion h)
    (fun _ session => .refl session.expansion) ns

end Markup.Render

lemma Markup.follows_of_render {setting : Setting Expansion} {s : Template.Store}
    (h : setting.expand = s.renderText) {ns : List Node} {bag : Json} {x x' : Expansion}
    {text : String} (hrender : (render setting ns bag x).value = .ok (text, x')) :
    x.Follows x' := by
  have hkeeps := Render.keepsExpansion_document h ns ⟨Scope.ofBag bag, x, []⟩
  rw [render] at hrender
  cases hrun : (Render.document setting ns).run ⟨Scope.ofBag bag, x, []⟩ with
  | mk result session =>
    rw [hrun] at hrender hkeeps
    cases result with
    | error e => cases hrender
    | ok found =>
      cases hrender
      exact hkeeps

end QueryLoom

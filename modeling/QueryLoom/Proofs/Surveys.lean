import Mathlib
import QueryLoom.Proofs.LayeredLookup
import QueryLoom.Proofs.QuotedText

/-!
# What rendering asks of a bag

A document is surveyed without a bag. Its survey is a tree of questions: whether a condition holds,
how many entries a collection has, which fragment a reference names, and whether a text and a
binding find the values they need. Every answer leads on to another question or to an end, and the
defects stand at the ends. Rendering answers the questions from the bag and ends where the answers
lead, so a defect depends on the bag only through them.

The runs on fixed documents are evaluated with equations of library functions that come with the
whole of Mathlib only.
-/

namespace QueryLoom

/-- The error, if it is a defect of a document. -/
def SqlError.defect? (e : SqlError) : Option SqlError :=
  if e.isAuthoringDefect then some e else none

namespace Markup

open Condition (Expr)
open Render (Inclusion)

/-! ### Questions -/

/-- What is found where a collection is looked for. -/
inductive Extent where
  | nothing
  | noCollection
  | entries (count : Nat)

/-- What is asked of a bag and the frames above it. -/
inductive Question where
  /-- Whether all markers of a text have values. -/
  | text (written : String)
  /-- Whether an expression has a value. -/
  | value (source : String)
  /-- Whether a condition holds. -/
  | condition (source : String)
  /-- How many entries a collection has. -/
  | collection (name : String)
  /-- What a reference says, if all markers of it have values. -/
  | reference (written : String)

/-- The answers to a question. -/
def Question.Answer : Question → Type
  | .text _ | .value _ | .condition _ => Bool
  | .collection _ => Extent
  | .reference _ => Option String

/-- A question with its answer. -/
abbrev Answered := (q : Question) × q.Answer

/-- How a rendering ends: with a text, or with an error, which may be a defect. -/
inductive Ending where
  | text
  | failure (defect? : Option SqlError)

/-- How a rendering with this result ended. -/
def Ending.of {α : Type} : SqlResult α → Ending
  | .ok _ => .text
  | .error e => .failure e.defect?

lemma Ending.of_eq_defect {α : Type} {r : SqlResult α} {e : SqlError} :
    Ending.of r = .failure (some e) ↔ r = .error e ∧ e.isAuthoringDefect = true := by
  cases r with
  | ok a => simp [Ending.of]
  | error e' =>
    simp only [Ending.of, SqlError.defect?, Ending.failure.injEq, Except.error.injEq]
    by_cases he : e'.isAuthoringDefect = true
    · rw [if_pos he, Option.some.injEq, iff_self_and]
      exact fun h => h ▸ he
    · rw [if_neg he]
      refine ⟨nofun, fun ⟨h, hdefect⟩ => absurd (h ▸ hdefect) he⟩

/-! ### Surveys -/

/-- Questions that depend on the answers to the questions before. -/
inductive Survey where
  | ends (ending : Ending)
  | asks (q : Question) (next : q.Answer → Survey)

namespace Survey

/-- One survey, and where it ends with a text, another one. -/
def andThen : Survey → Survey → Survey
  | .ends .text, later => later
  | .ends (.failure defect?), _ => .ends (.failure defect?)
  | .asks q next, later => .asks q fun x => (next x).andThen later

/-- What follows if there is no error. -/
def ofResult {α : Type} (r : SqlResult α) (next : α → Survey) : Survey :=
  match r with
  | .ok a => next a
  | .error e => .ends (.failure e.defect?)

/-- A question that has to be affirmed. -/
def demands (q : Question) (affirmed : q.Answer → Bool) : Survey :=
  .asks q fun x => .ends (if affirmed x then .text else .failure none)

/-- What follows from a condition. -/
def decides (source : String) (yes no : Survey) : Survey :=
  .asks (.condition source) fun (b : Bool) => if b then yes else no

/-- A survey taken several times. -/
def repeated (t : Survey) : Nat → Survey
  | 0 => .ends .text
  | count + 1 => t.andThen (t.repeated count)

/-- What follows for a collection whose entries are surveyed. -/
def ofExtent (name : String) (body : Survey) : Extent → Survey
  | .nothing => .ends (.failure none)
  | .noCollection => .ends (.failure (some (.malformedTag "foreach" (.notACollection name))))
  | .entries count => body.repeated count

/-! ### Surveys of documents -/

section Documents

variable (namespaces : List String) (fragment? : String → Option (List Node))

section Nodes

variable (included : Inclusion → Survey)

/-- What follows for what a reference says. -/
def ofReference (children : List Node) : Option String → Survey
  | none => .ends (.failure none)
  | some reference =>
    ofResult (Render.inclusionOf namespaces reference children
      ((Render.fullNames namespaces reference).findSome? fragment?)) included

mutual

/-- The survey of a node. -/
def node : Node → Survey
  | .text written => demands (.text written) id
  | .element name attributes children =>
    match Tag.ofName? name with
    | some .conditional =>
      ofResult (Attributes.required name attributes "test") fun source =>
        decides source (nodes children) (.ends .text)
    | some .choice => choice children
    | some .trim | some .conditions | some .assignments => nodes children
    | some .loop =>
      ofResult (Attributes.required "foreach" attributes "collection") fun collection =>
        .asks (.collection collection) (ofExtent collection (nodes children))
    | some .binding =>
      ofResult (Attributes.required "bind" attributes "name") fun _ =>
        ofResult (Attributes.required "bind" attributes "value") fun source =>
          demands (.value source) id
    | some .inclusion =>
      ofResult (Attributes.required "include" attributes "refid") fun written =>
        .asks (.reference written) (ofReference namespaces fragment? included children)
    | none => .ends (.failure (some (.malformedTag name .unsupportedTag)))

/-- The survey of nodes one after the other. -/
def nodes : List Node → Survey
  | [] => .ends .text
  | n :: rest => (node n).andThen (nodes rest)

/-- The survey of alternatives. -/
def choice : List Node → Survey
  | [] => .ends .text
  | .text _ :: rest => choice rest
  | .element name attributes children :: rest =>
    if smallName name = "when" then
      ofResult (Attributes.required name attributes "test") fun source =>
        decides source (nodes children) (choice rest)
    else if smallName name = "otherwise" then nodes children
    else .ends (.failure (some (.malformedTag name .onlyWhenOrOtherwise)))

end

end Nodes

/-- The survey of an include when `room` more may be opened. -/
def includeWithin : (room : Nat) → Inclusion → Survey
  | 0, found =>
    .ends (.failure (some
      (.malformedTag "include" (.includeTooDeep found.reference Render.maxIncludes))))
  | room + 1, found => nodes namespaces fragment? (includeWithin room) found.nodes

/-- The survey of a document. -/
def document (ns : List Node) : Survey :=
  nodes namespaces fragment? (includeWithin namespaces fragment? Render.maxIncludes) ns

end Documents

/-! ### Ways through a survey -/

/-- The answers lead to an end of the survey, and there are no more of them. -/
inductive Leads : Survey → List Answered → Ending → Prop where
  | ends (ending : Ending) : Leads (.ends ending) [] ending
  | asks {q : Question} {next : q.Answer → Survey} {x : q.Answer} {left : List Answered}
      {ending : Ending} : Leads (next x) left ending → Leads (.asks q next) (⟨q, x⟩ :: left) ending

namespace Leads

variable {t t' : Survey} {told told' : List Answered} {ending ending' : Ending}

lemma andThen (h : t.Leads told .text) (h' : t'.Leads told' ending) :
    (t.andThen t').Leads (told ++ told') ending := by
  generalize hend : Ending.text = ended at h
  induction h with
  | ends ended =>
    subst hend
    exact h'
  | asks _ ih => exact .asks (ih hend)

lemma andThen_of_failure {defect? : Option SqlError} (h : t.Leads told (.failure defect?)) :
    (t.andThen t').Leads told (.failure defect?) := by
  generalize hend : Ending.failure defect? = ended at h
  induction h with
  | ends ended =>
    subst hend
    exact .ends _
  | asks _ ih => exact .asks (ih hend)

/-- Ways that lead to different ends part at a question with two answers. -/
lemma part (h : t.Leads told ending) (h' : t.Leads told' ending') (hne : ending ≠ ending') :
    ∃ (front : List Answered) (q : Question) (x y : q.Answer) (left left' : List Answered),
      x ≠ y ∧ told = front ++ ⟨q, x⟩ :: left ∧ told' = front ++ ⟨q, y⟩ :: left' := by
  induction h generalizing told' with
  | ends ended =>
    cases h'
    exact absurd rfl hne
  | @asks q next x left ended hnext ih =>
    cases h' with
    | @asks _ _ y left' _ hnext' =>
      by_cases hxy : x = y
      · subst hxy
        obtain ⟨front, p, z, w, rest, rest', hzw, rfl, rfl⟩ := ih hnext' hne
        exact ⟨⟨q, x⟩ :: front, p, z, w, rest, rest', hzw, rfl, rfl⟩
      · exact ⟨[], q, x, y, left, left', hxy, rfl, rfl⟩

end Leads

end Survey

/-! ### Answers -/

/-- What is found in place of a collection. -/
def Extent.of : Option Json → Extent
  | none => .nothing
  | some .null => .entries 0
  | some (.array items) => .entries items.length
  | some (.object fields) => .entries fields.length
  | some _ => .noCollection

/-- The truth of a condition; one without a value is false. -/
def satisfies (scope : Scope) (source : String) : Bool :=
  match (Expr.parse source).bind (·.test scope.resolve?) with
  | .ok b => b
  | .error _ => false

/-- The answer to a question in a scope. -/
def Question.answer (d : Dialect) (scope : Scope) : (q : Question) → q.Answer
  | .text written => (substitute scope d written).isOk
  | .value source => ((Expr.parse source).bind (·.eval scope.resolve?)).isOk
  | .condition source => satisfies scope source
  | .collection name => Extent.of (scope.resolve? (Text.trimmed name))
  | .reference written => (substitute scope d written).toOption.map Text.trimmed

namespace Render

variable {α β : Type}

/-- What is told after a step about its result and the session it leaves; nothing after an
error. -/
def thenTold (step : Render Unit α) (told : α → Session Unit → List Answered) (s : Session Unit) :
    List Answered :=
  match step.run s with
  | (.ok a, s') => told a s'
  | (.error _, _) => []

section Told

variable (setting : Setting Unit)

/-- A question and its answer in the scope of a session. -/
def tell (q : Question) (s : Session Unit) : Answered := ⟨q, q.answer setting.dialect s.scope⟩

/-- What is told by a body for each entry of a collection. -/
def toldByEntries (item : String) (index? : Option String) (body : Render Unit String)
    (told : Session Unit → List Answered) : List (Json × Json) → Session Unit → List Answered
  | [], _ => []
  | entry :: rest, s =>
    told { s with scope := s.scope.push (entryFrame item index? entry) } ++
      thenTold (withFrame (entryFrame item index? entry) body)
        (fun _ => toldByEntries item index? body told rest) s

section Nodes

variable (included : Inclusion → Render Unit String)
  (toldByIncluded : Inclusion → Session Unit → List Answered)

mutual

/-- What is told while a node is rendered. -/
def toldByNode : Node → Session Unit → List Answered
  | .text written, s => [tell setting (.text written) s]
  | .element name attributes children, s =>
    match Tag.ofName? name with
    | some .conditional =>
      thenTold (liftM (Attributes.required name attributes "test")) (fun source s =>
        tell setting (.condition source) s ::
          thenTold (test source) (fun b s => if b then toldByNodes children s else []) s) s
    | some .choice => toldByChoice children s
    | some .trim | some .conditions | some .assignments => toldByNodes children s
    | some .loop =>
      thenTold (liftM (Attributes.required "foreach" attributes "collection")) (fun collection s =>
        tell setting (.collection collection) s ::
          thenTold (liftM (entries collection (s.scope.resolve? (Text.trimmed collection))))
            (toldByEntries (Attributes.getD attributes "item" "item")
              (KeyMap.get? "index" attributes) (inkedNodes setting included children)
              (toldByNodes children)) s) s
    | some .binding =>
      thenTold (liftM (Attributes.required "bind" attributes "name")) (fun _ =>
        thenTold (liftM (Attributes.required "bind" attributes "value")) fun source s =>
          [tell setting (.value source) s]) s
    | some .inclusion =>
      thenTold (liftM (Attributes.required "include" attributes "refid")) (fun written s =>
        tell setting (.reference written) s ::
          thenTold (findInclusion setting attributes children) toldByIncluded s) s
    | none => []

/-- What is told while nodes are rendered one after the other. -/
def toldByNodes : List Node → Session Unit → List Answered
  | [], _ => []
  | n :: rest, s =>
    toldByNode n s ++ thenTold (node setting included n) (fun _ s => toldByNodes rest s) s

/-- What is told while an alternative is chosen and rendered. -/
def toldByChoice : List Node → Session Unit → List Answered
  | [], _ => []
  | .text _ :: rest, s => toldByChoice rest s
  | .element name attributes children :: rest, s =>
    if smallName name = "when" then
      thenTold (liftM (Attributes.required name attributes "test")) (fun source s =>
        tell setting (.condition source) s ::
          thenTold (test source)
            (fun b s => if b then toldByNodes children s else toldByChoice rest s) s) s
    else if smallName name = "otherwise" then toldByNodes children s
    else []

end

end Nodes

/-- What is told by an include when `room` more may be opened. -/
def toldByInclude : (room : Nat) → Inclusion → Session Unit → List Answered
  | 0, _, _ => []
  | room + 1, found, s =>
    toldByNodes setting (includeWithin setting room) (toldByInclude room) found.nodes
      { s with scope := s.scope.push found.frame }

/-- What is told while a document is rendered for a bag. -/
def told (ns : List Node) (bag : Json) : List Answered :=
  toldByNodes setting (includeWithin setting maxIncludes) (toldByInclude setting maxIncludes) ns
    ⟨Scope.ofBag bag, (), []⟩

end Told

/-! ### Surveyed steps -/

/-- What a step asks is in the survey: the answers told during the step lead to its end. -/
def Surveyed (t : Survey) (told : Session Unit → List Answered) (step : Render Unit α) : Prop :=
  ∀ s, t.Leads (told s) (.of (step.run s).1)

section Steps

variable {step : Render Unit α} {told : α → Session Unit → List Answered} {s s' : Session Unit}

lemma thenTold_of_ok {a : α} (h : step.run s = (.ok a, s')) : thenTold step told s = told a s' := by
  rw [thenTold, h]

lemma thenTold_of_error {e : SqlError} (h : step.run s = (.error e, s')) :
    thenTold step told s = [] := by
  rw [thenTold, h]

lemma run_test (source : String) (s : Session Unit) :
    ∃ s', (test source).run s = (.ok (satisfies s.scope source), s') :=
  ⟨_, Prod.ext (fst_run_test source s) rfl⟩

end Steps

namespace Surveyed

variable {t t' : Survey} {toldFirst : Session Unit → List Answered}
  {told : α → Session Unit → List Answered} {step : Render Unit α} {next : α → Render Unit β}

lemma bind (h : Surveyed t toldFirst step) (hnext : ∀ a, Surveyed t' (told a) (next a)) :
    Surveyed (t.andThen t') (fun s => toldFirst s ++ thenTold step told s) (step >>= next) := by
  intro s
  beta_reduce
  have hs := h s
  rcases run_bind_cases step next s with ⟨e, s', hrun, hbind⟩ | ⟨a, s', hrun, hbind⟩
  · rw [hrun] at hs
    rw [hbind, thenTold_of_error hrun, List.append_nil]
    exact hs.andThen_of_failure
  · rw [hrun] at hs
    rw [hbind, thenTold_of_ok hrun]
    exact hs.andThen (hnext a s')

lemma map (h : Surveyed t toldFirst step) (f : α → β) :
    Surveyed t toldFirst (step >>= fun a => pure (f a)) := by
  intro s
  have hs := h s
  rcases run_bind_cases step (fun a => pure (f a)) s with
    ⟨e, s', hrun, hbind⟩ | ⟨a, s', hrun, hbind⟩
  · rw [hrun] at hs
    rwa [hbind]
  · rw [hrun] at hs
    rwa [hbind]

lemma lift {r : SqlResult α} {later : α → Survey}
    (h : ∀ a, Surveyed (later a) (told a) (next a)) :
    Surveyed (Survey.ofResult r later) (thenTold (liftM r) told) (liftM r >>= next) := by
  intro s
  cases r with
  | error e => exact .ends _
  | ok a => exact h a s

lemma withFrame (h : Surveyed t toldFirst step) (frame : KeyMap Json) :
    Surveyed t (fun s => toldFirst { s with scope := s.scope.push frame })
      (Render.withFrame frame step) :=
  fun s => h { s with scope := s.scope.push frame }

/-- The answer to a condition is its truth, which decides on the step that follows. -/
lemma decides (setting : Setting Unit) {step' : Render Unit α}
    {toldFirst' : Session Unit → List Answered} (h : Surveyed t toldFirst step)
    (h' : Surveyed t' toldFirst' step') (source : String) :
    Surveyed (.decides source t t')
      (fun s => tell setting (.condition source) s ::
        thenTold (test source) (fun b s => if b then toldFirst s else toldFirst' s) s)
      (test source >>= fun b => if b then step else step') := by
  intro s
  beta_reduce
  obtain ⟨s', hrun⟩ := run_test source s
  rw [run_bind, hrun, thenTold_of_ok hrun]
  refine .asks ?_
  change Survey.Leads (if satisfies s.scope source then t else t') _ _
  cases satisfies s.scope source with
  | true => exact h s'
  | false => exact h' s'

lemma conditional (setting : Setting Unit) {step' : Render Unit α}
    {toldFirst' : Session Unit → List Answered} (h : Surveyed t toldFirst step)
    (h' : Surveyed t' toldFirst' step') (name : String) (attributes : Attributes) :
    Surveyed (.ofResult (attributes.required name "test") fun source => .decides source t t')
      (thenTold (liftM (attributes.required name "test")) fun source s =>
        tell setting (.condition source) s ::
          thenTold (test source) (fun b s => if b then toldFirst s else toldFirst' s) s)
      (do if ← test (← attributes.required name "test") then step else step') :=
  lift fun source => decides setting h h' source

/-- What is found for a collection decides how often its body is surveyed. -/
lemma forEntries {body : Render Unit String} (h : Surveyed t toldFirst body) (item : String)
    (index? : Option String) (found : List (Json × Json)) :
    Surveyed (t.repeated found.length) (toldByEntries item index? body toldFirst found)
      (Render.forEntries item index? body found) := by
  induction found with
  | nil => exact fun s => .ends _
  | cons entry found ih => exact (h.withFrame _).bind fun text => ih.map _

lemma loop (setting : Setting Unit) {body : Render Unit String} (h : Surveyed t toldFirst body)
    (attributes : Attributes) :
    Surveyed
      (.ofResult (attributes.required "foreach" "collection") fun collection =>
        .asks (.collection collection) (.ofExtent collection t))
      (thenTold (liftM (attributes.required "foreach" "collection")) fun collection s =>
        tell setting (.collection collection) s ::
          thenTold (liftM (entries collection (s.scope.resolve? (Text.trimmed collection))))
            (toldByEntries (attributes.getD "item" "item") (KeyMap.get? "index" attributes) body
              toldFirst) s)
      (Render.loop attributes body) := by
  refine lift fun collection s => ?_
  refine .asks ?_
  rw [run_bind, run_scope]
  dsimp only
  change Survey.Leads
    (.ofExtent collection t (Extent.of (s.scope.resolve? (Text.trimmed collection)))) _ _
  have hfound (found : List (Json × Json)) (count : Nat) (hcount : found.length = count) :=
    hcount ▸ (forEntries h (attributes.getD "item" "item") (KeyMap.get? "index" attributes)
      found).map (fun texts => attributes.getD "open" "" ++
        (attributes.getD "separator" "").intercalate texts ++ attributes.getD "close" "") s
  cases s.scope.resolve? (Text.trimmed collection) with
  | none => exact .ends _
  | some value =>
    cases value with
    | null => exact hfound [] 0 rfl
    | array items =>
      exact hfound (items.zipIdx.map fun entry => (.int entry.2, entry.1)) items.length (by simp)
    | object fields =>
      exact hfound (fields.map fun field => (.string field.1, field.2)) fields.length (by simp)
    | _ => exact .ends _

/-- A binding fails, apart from its attributes, only if its expression has no value. -/
lemma bindValue (setting : Setting Unit) (attributes : Attributes) :
    Surveyed
      (.ofResult (attributes.required "bind" "name") fun _ =>
        .ofResult (attributes.required "bind" "value") fun source => .demands (.value source) id)
      (thenTold (liftM (attributes.required "bind" "name")) fun _ =>
        thenTold (liftM (attributes.required "bind" "value")) fun source s =>
          [tell setting (.value source) s])
      (Render.bindValue attributes) := by
  refine lift fun name => lift fun source s => .asks ?_
  have hvalue : FailsAsCondition ((Expr.parse source).bind (·.eval s.scope.resolve?)) :=
    (FailsAsCondition.exprParse source).bind fun e => .exprEval s.scope.resolve? e
  have hrun : ((do
        let e ← Expr.parse source
        let value ← e.eval (← scope).resolve?
        setValue (Text.trimmed name) value : Render Unit Unit).run s).1 =
      ((Expr.parse source).bind (·.eval s.scope.resolve?)).map fun _ => () := by
    rw [run_bind, run_lift]
    cases Expr.parse source with
    | error e => rfl
    | ok e =>
      dsimp only
      rw [run_bind, run_scope]
      dsimp only
      rw [run_bind, run_lift]
      simp only [Except.bind]
      cases e.eval s.scope.resolve? <;> rfl
  rw [hrun]
  change Survey.Leads (.ends
    (if ((Expr.parse source).bind (·.eval s.scope.resolve?)).isOk then .text
      else .failure none)) [] _
  cases hresult : (Expr.parse source).bind (·.eval s.scope.resolve?) with
  | ok value => exact .ends _
  | error e =>
    obtain ⟨expression, fault, rfl⟩ := hvalue e hresult
    exact .ends _

end Surveyed

/-! ### Surveyed documents -/

section Plain

variable (namespaces : List String) (fragment? : String → Option (List Node)) (d : Dialect)

section Nodes

variable {included : Inclusion → Render Unit String}
  {toldByIncluded : Inclusion → Session Unit → List Answered} {surveyed : Inclusion → Survey}

lemma defect?_of_substitute {scope : Scope} {text : String} {e : SqlError}
    (h : substitute scope d text = .error e) : e.defect? = none := by
  dsimp only [substitute] at h
  split at h
  · cases h
  · rw [← Except.error.inj h]
    rfl

lemma surveyed_text (written : String) :
    Surveyed (.demands (.text written) id)
      (fun s => [tell (Setting.plain namespaces fragment? d) (.text written) s])
      (node (Setting.plain namespaces fragment? d) included (.text written)) := by
  intro s
  refine .asks ?_
  have hrun : ((node (Setting.plain namespaces fragment? d) included (.text written)).run s).1 =
      substitute s.scope d written := by
    rw [fst_run_text]
    split <;> rfl
  rw [hrun]
  change Survey.Leads (.ends (if (substitute s.scope d written).isOk then .text
    else .failure none)) [] _
  cases hresult : substitute s.scope d written with
  | ok text => exact .ends _
  | error e =>
    rw [Ending.of, defect?_of_substitute d hresult]
    exact .ends _

lemma surveyed_inclusion
    (hincluded : ∀ found, Surveyed (surveyed found) (toldByIncluded found) (included found))
    (attributes : Attributes) (children : List Node) :
    Surveyed
      (.ofResult (attributes.required "include" "refid") fun written =>
        .asks (.reference written) (.ofReference namespaces fragment? surveyed children))
      (thenTold (liftM (attributes.required "include" "refid")) fun written s =>
        tell (Setting.plain namespaces fragment? d) (.reference written) s ::
          thenTold (findInclusion (Setting.plain namespaces fragment? d) attributes children)
            toldByIncluded s)
      (do included (← findInclusion (Setting.plain namespaces fragment? d) attributes children)) := by
  intro s
  cases hwritten : attributes.required "include" "refid" with
  | error e =>
    have hrun : (findInclusion (Setting.plain namespaces fragment? d) attributes children).run s =
        (.error e, s) := by
      rw [findInclusion, hwritten]
      rfl
    rw [run_bind, hrun]
    exact .ends _
  | ok written =>
    refine .asks ?_
    change Survey.Leads (.ofReference namespaces fragment? surveyed children
      ((substitute s.scope d written).toOption.map Text.trimmed)) _ _
    rw [run_bind]
    cases hreference : substitute s.scope d written with
    | error e =>
      have hrun : (findInclusion (Setting.plain namespaces fragment? d) attributes children).run s =
          (.error e, s) := by
        rw [findInclusion, hwritten, run_bind, run_lift]
        dsimp only
        rw [run_bind, run_replaceMarkers]
        exact hreference ▸ rfl
      rw [hrun, thenTold_of_error hrun, Ending.of, defect?_of_substitute d hreference]
      exact .ends _
    | ok reference =>
      have hrun : (findInclusion (Setting.plain namespaces fragment? d) attributes children).run s =
          (inclusionOf namespaces (Text.trimmed reference) children
            ((fullNames namespaces (Text.trimmed reference)).findSome? fragment?), s) :=
        run_findInclusion (Setting.plain namespaces fragment? d) children s hwritten hreference
      change Survey.Leads (.ofResult (inclusionOf namespaces (Text.trimmed reference) children
        ((fullNames namespaces (Text.trimmed reference)).findSome? fragment?)) surveyed) _ _
      generalize inclusionOf namespaces (Text.trimmed reference) children
        ((fullNames namespaces (Text.trimmed reference)).findSome? fragment?) = result at hrun ⊢
      rw [thenTold, hrun]
      cases result with
      | error e => exact .ends _
      | ok found => exact hincluded found s

mutual

lemma surveyed_node
    (hincluded : ∀ found, Surveyed (surveyed found) (toldByIncluded found) (included found)) :
    (n : Node) → Surveyed (Survey.node namespaces fragment? surveyed n)
      (toldByNode (Setting.plain namespaces fragment? d) included toldByIncluded n)
      (node (Setting.plain namespaces fragment? d) included n)
  | .text written => surveyed_text namespaces fragment? d written
  | .element name attributes children => by
    have hnodes := surveyed_nodes hincluded children
    have hinked := surveyed_inkedNodes hincluded children
    have hchoice := surveyed_choice hincluded children
    intro s
    rw [Survey.node, toldByNode, node]
    cases Tag.ofName? name with
    | none => exact .ends _
    | some tag =>
      cases tag with
      | conditional =>
        have hnothing : Surveyed (.ends .text) (fun _ => []) (pure "" : Render Unit String) :=
          fun _ => .ends _
        exact hnodes.conditional _ hnothing name attributes s
      | choice => exact hchoice s
      | trim => exact hnodes.map _ s
      | conditions => exact hnodes.map _ s
      | assignments => exact hnodes.map _ s
      | loop => exact (hinked.loop _ attributes) s
      | binding => exact ((Surveyed.bindValue _ attributes).map _) s
      | inclusion => exact surveyed_inclusion namespaces fragment? d hincluded attributes children s

lemma surveyed_nodes
    (hincluded : ∀ found, Surveyed (surveyed found) (toldByIncluded found) (included found)) :
    (ns : List Node) → Surveyed (Survey.nodes namespaces fragment? surveyed ns)
      (toldByNodes (Setting.plain namespaces fragment? d) included toldByIncluded ns)
      (nodes (Setting.plain namespaces fragment? d) included ns)
  | [] => by
    intro s
    rw [Survey.nodes, toldByNodes, nodes]
    exact .ends _
  | n :: rest => by
    intro s
    rw [Survey.nodes, toldByNodes, nodes]
    exact (surveyed_node hincluded n).bind (fun text => (surveyed_nodes hincluded rest).map _) s

lemma surveyed_inkedNodes
    (hincluded : ∀ found, Surveyed (surveyed found) (toldByIncluded found) (included found)) :
    (ns : List Node) → Surveyed (Survey.nodes namespaces fragment? surveyed ns)
      (toldByNodes (Setting.plain namespaces fragment? d) included toldByIncluded ns)
      (inkedNodes (Setting.plain namespaces fragment? d) included ns)
  | [] => by
    intro s
    rw [Survey.nodes, toldByNodes, inkedNodes]
    exact .ends _
  | n :: rest => by
    intro s
    rw [Survey.nodes, toldByNodes, inkedNodes]
    exact (surveyed_node hincluded n).bind (fun text => (surveyed_inkedNodes hincluded rest).map _) s

lemma surveyed_choice
    (hincluded : ∀ found, Surveyed (surveyed found) (toldByIncluded found) (included found)) :
    (ns : List Node) → Surveyed (Survey.choice namespaces fragment? surveyed ns)
      (toldByChoice (Setting.plain namespaces fragment? d) included toldByIncluded ns)
      (choice (Setting.plain namespaces fragment? d) included ns)
  | [] => by
    intro s
    rw [Survey.choice, toldByChoice, choice]
    exact .ends _
  | .text text :: rest => by
    intro s
    rw [Survey.choice, toldByChoice, choice]
    exact surveyed_choice hincluded rest s
  | .element name attributes children :: rest => by
    have hnodes := surveyed_nodes hincluded children
    have hrest := surveyed_choice hincluded rest
    intro s
    rw [Survey.choice, toldByChoice, choice]
    by_cases hwhen : smallName name = "when"
    · rw [if_pos hwhen, if_pos hwhen, if_pos hwhen]
      exact hnodes.conditional _ hrest name attributes s
    · rw [if_neg hwhen, if_neg hwhen, if_neg hwhen]
      by_cases hotherwise : smallName name = "otherwise"
      · rw [if_pos hotherwise, if_pos hotherwise, if_pos hotherwise]
        exact hnodes s
      · rw [if_neg hotherwise, if_neg hotherwise, if_neg hotherwise]
        exact .ends _

end

end Nodes

lemma surveyed_include (room : Nat) (found : Inclusion) :
    Surveyed (Survey.includeWithin namespaces fragment? room found)
      (toldByInclude (Setting.plain namespaces fragment? d) room found)
      (includeWithin (Setting.plain namespaces fragment? d) room found) := by
  induction room generalizing found with
  | zero => exact fun s => .ends _
  | succ room ih => exact (surveyed_nodes namespaces fragment? d ih found.nodes).withFrame found.frame

end Plain

end Render

/-! ### Documents and bags -/

/-- The answers told while a document is rendered lead through its survey to the end that the
rendering comes to. So if a document fails with a defect for one bag but not for another, then the
two bags have different answers to one of the questions, and equal answers to all before it. -/
theorem defects_by_answers (namespaces : List String) (fragment? : String → Option (List Node))
    (d : Dialect) (ns : List Node) :
    (∀ bag, (Survey.document namespaces fragment? ns).Leads
      (Render.told (Setting.plain namespaces fragment? d) ns bag)
      (.of (rendered (Setting.plain namespaces fragment? d) ns bag))) ∧
    ∀ bag bag' e, rendered (Setting.plain namespaces fragment? d) ns bag = .error e →
      e.isAuthoringDefect = true →
      rendered (Setting.plain namespaces fragment? d) ns bag' = .error e ∨
        ∃ (front : List Answered) (q : Question) (x y : q.Answer) (left left' : List Answered),
          x ≠ y ∧
          Render.told (Setting.plain namespaces fragment? d) ns bag = front ++ ⟨q, x⟩ :: left ∧
          Render.told (Setting.plain namespaces fragment? d) ns bag' = front ++ ⟨q, y⟩ :: left' := by
  have hleads (bag : Json) : (Survey.document namespaces fragment? ns).Leads
      (Render.told (Setting.plain namespaces fragment? d) ns bag)
      (.of (rendered (Setting.plain namespaces fragment? d) ns bag)) := by
    rw [rendered_of_run (r := ((Render.document (Setting.plain namespaces fragment? d) ns).run
      ⟨Scope.ofBag bag, (), []⟩).1) rfl]
    exact Render.surveyed_nodes namespaces fragment? d
      (Render.surveyed_include namespaces fragment? d Render.maxIncludes) ns _
  refine ⟨hleads, fun bag bag' e he hdefect => ?_⟩
  by_cases hsame : rendered (Setting.plain namespaces fragment? d) ns bag' = .error e
  · exact .inl hsame
  · refine .inr ((hleads bag).part (hleads bag') fun hending => hsame ?_)
    have hend : Ending.of (rendered (Setting.plain namespaces fragment? d) ns bag) =
        .failure (some e) := Ending.of_eq_defect.mpr ⟨he, hdefect⟩
    exact (Ending.of_eq_defect.mp (hending.symm.trans hend)).1

/-- A collection that is a text, and one that has two entries. -/
theorem defects_by_answers_loop :
    rendered (Setting.plain [] (fun _ => none) .mysql)
        [.element "foreach" [("collection", "x"), ("separator", ",")] [.text "?"]]
        (.object [("x", .string "p")]) =
        .error (.malformedTag "foreach" (.notACollection "x")) ∧
      rendered (Setting.plain [] (fun _ => none) .mysql)
        [.element "foreach" [("collection", "x"), ("separator", ",")] [.text "?"]]
        (.object [("x", .array [.string "p", .string "q"])]) = .ok "?,?" ∧
      ∃ (front : List Answered) (q : Question) (x y : q.Answer) (left left' : List Answered),
        x ≠ y ∧
        Render.told (Setting.plain [] (fun _ => none) .mysql)
          [.element "foreach" [("collection", "x"), ("separator", ",")] [.text "?"]]
          (.object [("x", .string "p")]) = front ++ ⟨q, x⟩ :: left ∧
        Render.told (Setting.plain [] (fun _ => none) .mysql)
          [.element "foreach" [("collection", "x"), ("separator", ",")] [.text "?"]]
          (.object [("x", .array [.string "p", .string "q"])]) = front ++ ⟨q, y⟩ :: left' := by
  have htext : rendered (Setting.plain [] (fun _ => none) .mysql)
      [.element "foreach" [("collection", "x"), ("separator", ",")] [.text "?"]]
      (.object [("x", .string "p")]) =
        .error (.malformedTag "foreach" (.notACollection "x")) := by cbv
  have htwo : rendered (Setting.plain [] (fun _ => none) .mysql)
      [.element "foreach" [("collection", "x"), ("separator", ",")] [.text "?"]]
      (.object [("x", .array [.string "p", .string "q"])]) = .ok "?,?" := by cbv
  refine ⟨htext, htwo, ?_⟩
  rcases (defects_by_answers [] (fun _ => none) .mysql _).2 _
    (.object [("x", .array [.string "p", .string "q"])]) _ htext rfl with hsame | hpart
  · cases htwo.symm.trans hsame
  · exact hpart

/-- An unknown tag under a condition is found only if the condition holds. -/
theorem guarded_defect_unseen :
    rendered (Setting.plain [] (fun _ => none) .mysql)
        [.element "if" [("test", "a")] [.element "bogus" [] []]] (.object [("a", .int 1)]) =
        .error (.malformedTag "bogus" .unsupportedTag) ∧
      (SqlError.malformedTag "bogus" .unsupportedTag).isAuthoringDefect = true ∧
      rendered (Setting.plain [] (fun _ => none) .mysql)
        [.element "if" [("test", "a")] [.element "bogus" [] []]] (.object []) = .ok "" := by
  refine ⟨?_, rfl, ?_⟩
  · cbv
  · cbv

end Markup

end QueryLoom

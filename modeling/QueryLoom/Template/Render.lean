import QueryLoom.Template.Helper
import QueryLoom.Template.Node

/-!
# Rendering templates

A template is rendered node by node. Values are written as they are; blocks are rendered by their
helpers, or as sections over a value of the view.

Rendering is recursive in the template alone: what an inserted template gives is a parameter, which
is then given by recursion on a budget of nested insertions.
-/

namespace QueryLoom.Template

/-! ### State -/

/-- What changes while a template is rendered. -/
structure RenderState where
  expansion : Expansion
  /-- The templates that have been defined inside others. -/
  defined : List (String × List Node)
  /-- The registered template whose nodes are being rendered, outside of its blocks. -/
  current? : Option String

/-- A step of rendering; a fault ends it all. -/
abbrev Rendering := StateT RenderState (Except String)

/-- Where a template is rendered: the environment, and the contents that were given to the inserted
templates around, the innermost first. -/
structure Place where
  env : Environment
  contents : List (List Node)
  /-- How many of the contents are passed over. -/
  passed : Nat

namespace Place

/-- The place inside one more block. -/
def push (l : Layer) (p : Place) : Place := { p with env := p.env.push l }

end Place

/-- Content that is rendered for a place. -/
abbrev Content := Place → Rendering String

/-- Arguments that have been evaluated, and the names for the values in a block. -/
structure Given where
  positional : List Found
  named : KeyMap Found
  blockNames : List String

namespace Rendering

/-- Stop with a fault. -/
def fail {α : Type} (reason : String) : Rendering α := throw reason

/-! ### Loops -/

/-- The names of one round of a loop. -/
def roundNames (given : Given) (place? : Option (List String)) (key value : Json) :
    List (String × Bound) :=
  let bound := if place?.isSome then Bound.place else .value value
  match given.blockNames with
  | [v] => [(v, bound)]
  | [v, k] => [(v, bound), (k, .value key)]
  | _ => []

/-- The layer of one round of a loop; `step` is the name of the item in its collection. -/
def roundLayer (given : Given) (place? : Option (List String)) (step : String) (key value : Json)
    (locals : KeyMap Json) : Layer :=
  let names := roundNames given place? key value
  match place? with
  | some place => ⟨place ++ [step], none, names, locals⟩
  | none => ⟨[], some value, names, locals⟩

/-- The variables of the round with a number among `count` rounds. -/
def roundVariables (index count : Nat) : KeyMap Json :=
  [("first", .bool (index = 0)), ("index", .int index), ("last", .bool (index + 1 = count))]

/-- The rounds over an array. -/
def itemRounds (given : Given) (place? : Option (List String)) (items : List Json) : List Layer :=
  items.zipIdx.map fun (v, i) =>
    roundLayer given place? (toString i) (.int i) v (roundVariables i items.length)

/-- The rounds over an object. -/
def entryRounds (given : Given) (place? : Option (List String)) (entries : KeyMap Json) :
    List Layer :=
  entries.zipIdx.map fun ((k, v), i) =>
    roundLayer given place? k (.string k) v
      ((roundVariables i entries.length).insert "key" (.string k))

/-- Render content in a layer after the other. -/
def inLayers (p : Place) (content : Content) : List Layer → Rendering String
  | [] => return ""
  | l :: ls => do
    let text ← content (p.push l)
    return text ++ (← inLayers p content ls)

/-- The content that stands for a block without its own. -/
def orElse (p : Place) (alternative? : Option Content) : Rendering String :=
  match alternative? with
  | some content => content p
  | none => return ""

/-- Render content for each item or entry of a value. -/
def eachOf (p : Place) (given : Given) (found : Found) (content alternative? : Option Content) :
    Rendering String :=
  match content with
  | none => return ""
  | some content =>
    match found.value with
    | .array [] => orElse p alternative?
    | .array items => inLayers p content (itemRounds given found.place? items)
    | .object [] => orElse p alternative?
    | .object entries => inLayers p content (entryRounds given found.place? entries)
    | _ => orElse p alternative?

/-- Render content inside a value. -/
def within (p : Place) (given : Given) (found : Found) (content alternative? : Option Content) :
    Rendering String :=
  if isTruthy false found.value then
    let bound := if found.place?.isSome then Bound.place else .value found.value
    let names := match given.blockNames with
      | [v] => [(v, bound)]
      | _ => []
    let layer : Layer := match found.place? with
      | some place => ⟨place, none, names, []⟩
      | none => ⟨[], some found.value, names, []⟩
    orElse (p.push layer) content
  else orElse p alternative?

/-! ### Sections -/

/-- The entries of an object over those of the current one; another value replaces it. -/
def overlay (outer inner : Json) : Json :=
  match outer, inner with
  | .object o, .object i => .object (KeyMap.overlay o i)
  | _, inner => inner

/-- The layers of a section over a value: one for each item of an array, one for an object, and
none that changes anything for another value. -/
def sectionLayers (scope value : Json) : Option (List Layer) :=
  match value with
  | .array items => some (items.map fun item => Layer.ofValue (overlay scope item))
  | .object entries => some [Layer.ofValue (overlay scope (.object entries))]
  | _ => none

/-- Render content as a section over the value of a name. -/
def sectionBlock (p : Place) (name : String) (content alternative? : Option Content) :
    Rendering String := do
  let value := (← p.env.resolve (.ofName name)).value
  if isFilled value then
    match content with
    | none => return ""
    | some content =>
      match sectionLayers (← p.env.current) value with
      | some layers => inLayers p content layers
      | none => content p
  else orElse p alternative?

/-! ### Blocks of SQL -/

/-- Render content as a block of SQL. -/
def sqlBlock (p : Place) (b : SqlBlock) (content : Option Content) : Rendering String := do
  let (text?, entered) := b.enter (← get).expansion
  modify fun s => { s with expansion := entered }
  match text? with
  | some text => return text
  | none =>
    let text ← orElse p content
    return String.ofList (b.clause (← get).expansion text.toList)

/-! ### Helpers -/

/-- The first argument, which has to be there. -/
def firstOf (given : Given) : Rendering Found :=
  match given.positional with
  | a :: _ => return a
  | [] => fail "missing argument"

/-- Run a helper. -/
def runHelper (p : Place) (h : Helper) (name : String) (given : Given)
    (content alternative? : Option Content) : Rendering String :=
  match h with
  | .conditional positive => do
    let a ← firstOf given
    let includeZero := match (KeyMap.get? "includeZero" given.named).map Found.value with
      | some (.bool b) => b
      | _ => false
    if isTruthy includeZero a.value == positive then orElse p content else orElse p alternative?
  | .each => do eachOf p given (← firstOf given) content alternative?
  | .within => do within p given (← firstOf given) content alternative?
  | .verbatim => orElse p content
  | .log => if logs given.named then return "" else fail "unknown level"
  | .sectionBlock => sectionBlock p name content alternative?
  | .sql b => sqlBlock p b content

/-! ### Arguments -/

/-- The value of a call. A helper that renders content has none to render here; its text is the
value. -/
def callValue (p : Place) (name : String) (given : Given) : Rendering Found :=
  match Function.ofName? name with
  | some f => do return ⟨← f.apply (given.positional.map Found.value), none⟩
  | none =>
    match Helper.ofName? name with
    | some h => do return .ofValue (.string (← runHelper p h name given none none))
    | none => fail "unknown helper"

mutual

/-- The value of an argument. -/
def argument (p : Place) : Argument → Rendering Found
  | .literal v => return .ofValue v
  | .reference r => p.env.resolve r
  | .call name positional named => do
    let positional ← arguments p positional
    let named ← namedArguments p named
    callValue p name ⟨positional, named, []⟩

/-- The values of arguments. -/
def arguments (p : Place) : List Argument → Rendering (List Found)
  | [] => return []
  | a :: rest => do
    let v ← argument p a
    return v :: (← arguments p rest)

/-- The values of arguments with names. -/
def namedArguments (p : Place) : List (String × Argument) → Rendering (List (String × Found))
  | [] => return []
  | (name, a) :: rest => do
    let v ← argument p a
    return (name, v) :: (← namedArguments p rest)

end

/-- The arguments of a tag. -/
def given (p : Place) (i : Invocation) : Rendering Given := do
  let positional ← arguments p i.positional
  let named ← namedArguments p i.named
  return ⟨positional, named, i.blockNames⟩

/-! ### Values -/

/-- The name a tag goes by: that of a call is the text of its value. -/
def nameOf (p : Place) : Target → Rendering String
  | .name s => return s
  | .reference r => return r.text
  | .computed a => do return valueText (← argument p a).value

/-- Run what a name means, if it means a function or a helper. -/
def runNamed (p : Place) (name : String) (i : Invocation) (content alternative? : Option Content) :
    Option (Rendering String) :=
  match Function.ofName? name with
  | some f => some do
    let v? ← f.apply ((← given p i).positional.map Found.value)
    return valueText (v?.getD .null)
  | none => (Helper.ofName? name).map fun h => do
    runHelper p h name (← given p i) content alternative?

/-- Write a value. -/
def output (p : Place) (i : Invocation) : Rendering String := do
  match runNamed p (← nameOf p i.target) i none none with
  | some text => text
  | none =>
    match i.target with
    | .name _ => fail "unknown helper"
    | .reference r => return valueText (← p.env.resolve r).value
    | .computed a => return valueText (← argument p a).value

/-- Render a block; a name without other meaning is that of a section. -/
def block (p : Place) (i : Invocation) (content alternative? : Option Content) :
    Rendering String := do
  let name ← nameOf p i.target
  match runNamed p name i content alternative? with
  | some text => text
  | none =>
    let _ ← given p i
    sectionBlock p name content alternative?

/-! ### Definitions and insertions -/

/-- Define a template inside another. -/
def define (p : Place) (i : Invocation) (body : List Node) : Rendering Unit := do
  let name ← nameOf p i.target
  let args ← given p i
  if name != "inline" then fail "unknown decorator"
  match args.positional.map Found.value with
  | .string s :: _ => modify fun st => { st with defined := (s, body) :: st.defined }
  | _ => fail "name expected"

/-- Carry out the definitions among nodes. -/
def defineAll (p : Place) : List Node → Rendering Unit
  | [] => return ()
  | .definition i body :: rest => do
    define p i body
    defineAll p rest
  | .foreignUse :: _ => fail "unknown decorator"
  | _ :: rest => defineAll p rest

/-- An insertion: the name of the template, its arguments, and the content given to it. -/
structure Insertion where
  name : String
  given : Given
  content? : Option (List Node)

/-! ### Nodes -/

variable (inserted : Place → Insertion → Rendering String)

/-- Content is not a registered template of its own. -/
def asContent (render : Place → Rendering String) : Content := fun p => do
  modify fun s => { s with current? := none }
  render p

mutual

/-- Render a node; `inserted` says what an inserted template gives. -/
def node (p : Place) : Node → Rendering String
  | .text s => return s
  | .output i => output p i
  | .block i body none => block p i (some (asContent fun q => nodes q body)) none
  | .block i body (some alternative) =>
    block p i (some (asContent fun q => nodes q body))
      (some (asContent fun q => nodes q alternative))
  | .insertion i content? => do
    let name ← nameOf p i.target
    inserted p ⟨name, ← given p i, content?⟩
  | .definition i body => do
    define p i body
    return ""
  | .foreignUse => fail "unknown decorator"

/-- Render nodes one after the other. -/
def nodes (p : Place) : List Node → Rendering String
  | [] => return ""
  | n :: rest => do
    let text ← node p n
    return text ++ (← nodes p rest)

end

/-! ### Inserted templates -/

/-- The name that stands for the content given to the template. -/
def contentName : String := "@partial-block"

/-- The template of a name, and whether it is a registered one. -/
def findTemplate (registered? : String → Option (List Node)) (p : Place) (i : Insertion) :
    Rendering (List Node × Option String) := do
  let defined := (← get).defined
  let own? := if i.name == contentName then p.contents[p.passed]? else defined.lookup i.name
  match own?, registered? i.name, i.content? with
  | some ns, _, _ => return (ns, none)
  | none, some ns, _ => return (ns, some i.name)
  | none, none, some ns => return (ns, none)
  | none, none, none => fail "unknown template"

/-- The entries of the current value and of the arguments, as one object. -/
def mergeEntries (current : Json) (named : KeyMap Found) : Json :=
  let own := match current with
    | .object entries => entries
    | _ => []
  .object (KeyMap.overlay own (KeyMap.mapValues Found.value named))

/-- The environment of an inserted template: the first argument, if it has a place, is what it
looks at, and arguments with names are added to the current value. -/
def insertionEnv (env : Environment) (given : Given) : Except String Environment := do
  let place? := given.positional.head?.bind Found.place?
  let env := match place? with
    | some place => { env with layers := [Layer.ofPlace place] }
    | none => env
  if given.named.isEmpty then return env
  else
    let layer := env.layers.head?.getD .whole
    let env := { env with layers := [layer] }
    let merged := mergeEntries (← env.current) given.named
    return { env with layers := [{ layer with value? := some merged }] }

/-- The place of an inserted template. -/
def insertionPlace (p : Place) (i : Insertion) : Except String Place := do
  let env ← insertionEnv p.env i.given
  let passed := if i.name == contentName then p.passed + 1 else p.passed - 1
  return ⟨env, i.content?.toList ++ p.contents, passed⟩

/-- Render an inserted template when `budget` more may be nested. -/
def insertedWithin (registered? : String → Option (List Node)) :
    (budget : Nat) → Place → Insertion → Rendering String
  | 0, _, _ => fail "too many nested insertions"
  | budget + 1, p, i => do
    defineAll p (i.content?.getD [])
    if (← get).current? == some i.name then fail "template inserts itself"
    let (template, name?) ← findTemplate registered? p i
    let before ← get
    let inside ← insertionPlace p i
    set { before with current? := name? }
    let text ← nodes (insertedWithin registered? budget) inside template
    modify fun s => { before with expansion := s.expansion }
    return text

/-- How many insertions may be nested. -/
def maxInsertions : Nat := 1000

end Rendering

/-- The text of a template for a view, with the state of the expansion afterwards. `name?` is the
name the template is registered by. -/
def render (registered? : String → Option (List Node)) (name? : Option String)
    (template : List Node) (view : Json) (x : Expansion) : Except String (String × Expansion) :=
  let p : Place := ⟨.ofView view, [], 0⟩
  (Rendering.nodes (Rendering.insertedWithin registered? Rendering.maxInsertions) p template
    ⟨x, [], name?⟩).map fun (text, s) => (text, s.expansion)

end QueryLoom.Template

import QueryLoom.Event
import QueryLoom.Markup.Mapper
import QueryLoom.Registry.Markdown
import QueryLoom.Template.Store
import QueryLoom.Text.Shown

/-!
# Registries

A registry holds templates by id. A template is text, a function that makes text for a request, or
a markup tree. Texts are read when they are registered, so a text with a defect never gets in. The
store of read templates has under the id of a text that text, or the one that was put there since
for other templates to insert.
-/

namespace QueryLoom

/-! ### Sources -/

/-- What a template is made from. -/
inductive Source where
  /-- Template text, read when it is registered. -/
  | text (text : String)
  /-- A function to template text, which is read for each request. -/
  | generator (make : Request → String)
  /-- A block of a markup document. -/
  | tree (nodes : List Markup.Node)

namespace Source

/-- The kind of a source in events. -/
def kind : Source → String
  | .text _ => "text"
  | .generator _ => "generator"
  | .tree _ => "tree"

/-- A source as it is shown in messages. -/
def shown : Source → String
  | .text body => "Text(" ++ Text.shown body ++ ")"
  | .generator _ => "Generator(..)"
  | .tree nodes => "Tree(" ++ toString nodes.length ++ ")"

end Source

/-! ### The registry -/

/-- Sources by id, the templates that are read from texts, and the labels of codes. -/
structure Registry where
  sources : KeyMap Source
  store : Template.Store
  enums : Clause.EnumTable

namespace Registry

/-- A registry without templates. -/
def empty (enums : Clause.EnumTable) : Registry := ⟨[], [], enums⟩

/-- The source of an id. -/
def source? (r : Registry) (id : String) : Option Source := KeyMap.get? id r.sources

/-- Whether a template is registered under an id. -/
def contains (r : Registry) (id : String) : Bool := KeyMap.has id r.sources

/-- The ids in order. -/
def ids (r : Registry) : List String := KeyMap.keys r.sources

/-- The number of templates. -/
def size (r : Registry) : Nat := r.sources.length

/-- The markup tree that can be included under an id. -/
def fragment? (r : Registry) (id : String) : Option (List Markup.Node) :=
  match r.source? id with
  | some (.tree nodes) => some nodes
  | _ => none

/-- The first candidate with a source, and that source. -/
def resolve (r : Registry) (candidates : List String) : SqlResult (String × Source) :=
  match candidates.findSome? fun id => (r.source? id).map fun source => (id, source) with
  | some found => .ok found
  | none => .error (.templateNotFound candidates)

/-- A registry as it is shown in messages. -/
def shown (r : Registry) : String :=
  "TemplateRegistry \x7b templates: " ++ toString r.size ++ ", engine: " ++ r.store.shown ++ " \x7d"

end Registry

/-! ### Editing -/

/-- A change of a registry. What was changed before an error stays changed. -/
abbrev Edit := ExceptT SqlError (StateT Registry Logged)

namespace Edit

/-- Change the store of the registry. -/
def changeStore (edit : Template.StoreEdit α) : Edit α := do
  let r ← get
  let (result, store) := edit.apply r.store
  set { r with store }
  result

/-- Put a source under an id, in place of the one that was there. -/
def insert (id : String) (source : Source) : Edit Unit := do
  Logged.record (.templateRegistered id source.kind)
  let r ← get
  set { r with sources := KeyMap.insert id source r.sources }
  match r.source? id with
  | some previous => Logged.record (.templateReplaced id previous.kind)
  | none => pure ()

/-- Put a source under an id that is read for each request; the store loses the template there. -/
def insertUnread (id : String) (source : Source) : Edit Unit := do
  if (← get).store.contains id then changeStore (.unregister id)
  insert id source

/-- Register a source. A text is read before it is put under its id. -/
def register (id : String) (source : Source) : Edit Unit := do
  match source with
  | .text text =>
    changeStore (.register id text)
    insert id source
  | .generator _ | .tree _ => insertUnread id source

/-- Register a text that other templates can insert. -/
def registerPartial (name text : String) : Edit Unit := changeStore (.register name text)

/-- Register sources one after the other, up to the first error; the result is their number. -/
def registerAll (sources : List (String × Source)) : Edit Nat := do
  sources.forM fun (id, source) => register id source
  return sources.length

/-- Register the queries of a document under a namespace. -/
def loadMarkdown (namespaceName text : String) : Edit Nat :=
  registerAll ((Registry.queriesOf text).map fun (id, sql) =>
    (namespaceName ++ "." ++ id, .text sql))

/-- Register the blocks of a mapper under a namespace, or under its own if the given one is
empty. -/
def loadMapper (namespaceName xml : String) : Edit Nat := do
  let mapper ← Markup.Mapper.parse xml
  let space := if namespaceName.isEmpty then mapper.namespaceName?.getD "" else namespaceName
  if space.isEmpty then throw (.malformedTag "mapper" .noNamespace)
  registerAll (mapper.blocks.map fun block => (space ++ "." ++ block.id, .tree block.body))

/-- The registry after a change, also after an error, with the result and the events. -/
def apply (edit : Edit α) (r : Registry) : Registry × Logged (SqlResult α) :=
  let l := (edit.run.run r : Logged (SqlResult α × Registry))
  (l.value.2, ⟨l.value.1, l.events⟩)

end Edit

end QueryLoom

import QueryLoom.Condition.Eval
import QueryLoom.Condition.Parser
import QueryLoom.Markup.Session
import QueryLoom.Markup.Trimming

/-!
# Rendering documents

A document is rendered node by node. Texts are expanded and their markers replaced; elements decide
by conditions what is rendered, repeat their children, trim what they give, or include a fragment.

Rendering a document is recursive in the document alone: what an include does is a parameter, which
is then given by recursion on the number of includes that may still be opened.
-/

namespace QueryLoom.Markup

/-! ### Elements -/

/-- What an element does. -/
inductive Tag where
  | conditional
  | choice
  | trim
  | conditions
  | assignments
  | loop
  | binding
  | inclusion
  deriving DecidableEq, Repr

/-- A tag name in small ASCII letters. -/
def smallName (name : String) : String := name.map Char.toLower

/-- What the element of a name does. -/
def Tag.ofName? (name : String) : Option Tag :=
  match smallName name with
  | "if" => some .conditional
  | "choose" => some .choice
  | "trim" => some .trim
  | "where" => some .conditions
  | "set" => some .assignments
  | "foreach" => some .loop
  | "bind" => some .binding
  | "include" => some .inclusion
  | _ => none

/-- The attributes of an element. -/
abbrev Attributes := KeyMap String

/-- An attribute, or the given text if there is none. -/
def Attributes.getD (attributes : Attributes) (key fallback : String) : String :=
  (KeyMap.get? key attributes).getD fallback

/-- An attribute that has to be there and not to be blank; `tag` is named otherwise. -/
def Attributes.required (tag : String) (attributes : Attributes) (key : String) :
    SqlResult String :=
  match KeyMap.get? key attributes with
  | some value =>
    if Text.isBlankText value then .error (.malformedTag tag (.missingAttribute key))
    else .ok value
  | none => .error (.malformedTag tag (.missingAttribute key))

namespace Render

variable {σ : Type}

/-! ### Conditions and bindings -/

/-- The truth of a condition. A condition that cannot be read or has no value is false. -/
def test (source : String) : Render σ Bool := do
  let lookup := (← scope).resolve?
  match (Condition.Expr.parse source).bind (·.test lookup) with
  | .ok b => return b
  | .error e =>
    record (.conditionFailed source e)
    return false

/-- Give a name the value of an expression. -/
def bindValue (attributes : Attributes) : Render σ Unit := do
  let name ← attributes.required "bind" "name"
  let source ← attributes.required "bind" "value"
  let e ← Condition.Expr.parse source
  let value ← e.eval (← scope).resolve?
  setValue (Text.trimmed name) value

/-! ### Loops -/

/-- The keys and values of a collection, in order. -/
def entries (collection : String) (value? : Option Json) : SqlResult (List (Json × Json)) :=
  match value? with
  | none => .error (.unconvertedParameter [collection])
  | some .null => .ok []
  | some (.array items) => .ok (items.zipIdx.map fun (item, i) => (.int i, item))
  | some (.object fields) => .ok (fields.map fun (key, value) => (.string key, value))
  | some _ => .error (.malformedTag "foreach" (.notACollection collection))

/-- The frame of one entry of a collection. -/
def entryFrame (item : String) (index? : Option String) (entry : Json × Json) : KeyMap Json :=
  let frame := KeyMap.insert item entry.2 []
  match index? with
  | some index => KeyMap.insert index entry.1 frame
  | none => frame

/-- The texts of a step for each entry; empty ones do not count. -/
def forEntries (item : String) (index? : Option String) (body : Render σ String) :
    List (Json × Json) → Render σ (List String)
  | [] => return []
  | entry :: rest => do
    let text ← withFrame (entryFrame item index? entry) body
    let texts ← forEntries item index? body rest
    return if text.isEmpty then texts else text :: texts

/-- Repeat a step for each entry of a collection. -/
def loop (attributes : Attributes) (body : Render σ String) : Render σ String := do
  let collection ← attributes.required "foreach" "collection"
  let found ← entries collection ((← scope).resolve? (Text.trimmed collection))
  let texts ← forEntries (attributes.getD "item" "item") (KeyMap.get? "index" attributes) body found
  return attributes.getD "open" "" ++ (attributes.getD "separator" "").intercalate texts ++
    attributes.getD "close" ""

/-! ### Trimming -/

/-- The trimming that the attributes of an element ask for. -/
def trimmingOf (attributes : Attributes) : Trimming :=
  ⟨attributes.getD "prefix" "", attributes.getD "suffix" "",
    Overrides.ofText (attributes.getD "prefixOverrides" ""),
    Overrides.ofText (attributes.getD "suffixOverrides" ""), false⟩

/-- A body after its trimming. -/
def trimBody (attributes : Attributes) (body : String) : String :=
  let cs := ((trimmingOf attributes).apply body).toList
  String.ofList (dropCommaBeforeWhere cs.length cs)

/-! ### Includes -/

/-- How many includes may be open at once. -/
def maxIncludes : Nat := 16

/-- The frame of an include, from the properties among its children. -/
def propertyFrame (frame : KeyMap Json) : List Node → SqlResult (KeyMap Json)
  | [] => .ok frame
  | .text _ :: rest => propertyFrame frame rest
  | .element name attributes _ :: rest =>
    if name = "property" then do
      let key ← Attributes.required "property" attributes "name"
      propertyFrame (frame.insert key (.string (Attributes.getD attributes "value" ""))) rest
    else .error (.malformedTag name .onlyProperty)

/-- The full names a reference may stand for, in the order they are tried. -/
def fullNames (namespaces : List String) (reference : String) : List String :=
  (if reference.toList.contains '.' then [reference] else []) ++
    namespaces.map fun ns => ns ++ "." ++ reference

/-- What is included: the reference as it was resolved, the frame for its properties, and the
fragment. -/
structure Inclusion where
  reference : String
  frame : KeyMap Json
  nodes : List Node

/-- Find out what is included. -/
def findInclusion (setting : Setting σ) (attributes : Attributes) (children : List Node) :
    Render σ Inclusion := do
  let written ← attributes.required "include" "refid"
  let reference := Text.trimmed (← replaceMarkers setting written)
  let frame ← propertyFrame [] children
  match (fullNames setting.namespaces reference).findSome? setting.fragment? with
  | some nodes => return ⟨reference, frame, nodes⟩
  | none => throw (.includeNotFound reference setting.namespaces)

/-! ### Nodes -/

variable (setting : Setting σ) (included : Inclusion → Render σ String)

mutual

/-- Render a node; `included` says what an include gives. -/
def node : Node → Render σ String
  | .text text => do replaceMarkers setting (← expand setting text)
  | .element name attributes children => do
    match Tag.ofName? name with
    | some .conditional =>
      if ← test (← Attributes.required name attributes "test") then nodes children else return ""
    | some .choice => choice children
    | some .trim => return trimBody attributes (← nodes children)
    | some .conditions => return Trimming.conditions.apply (← nodes children)
    | some .assignments =>
      return " SET " ++ String.ofList (tidyAssignments (← nodes children).toList)
    | some .loop => loop attributes (inkedNodes children)
    | some .binding =>
      bindValue attributes
      return ""
    | some .inclusion => included (← findInclusion setting attributes children)
    | none => throw (.malformedTag name .unsupportedTag)

/-- Render nodes one after the other. -/
def nodes : List Node → Render σ String
  | [] => return ""
  | n :: rest => do
    let text ← node n
    return text ++ (← nodes rest)

/-- Render nodes and leave out those that give nothing but blanks. -/
def inkedNodes : List Node → Render σ String
  | [] => return ""
  | n :: rest => do
    let text ← node n
    let more ← inkedNodes rest
    return if Text.isBlankText text then more else text ++ more

/-- Render the first alternative whose condition holds. -/
def choice : List Node → Render σ String
  | [] => return ""
  | .text _ :: rest => choice rest
  | .element name attributes children :: rest => do
    if smallName name = "when" then
      if ← test (← Attributes.required name attributes "test") then nodes children
      else choice rest
    else if smallName name = "otherwise" then nodes children
    else throw (.malformedTag name .onlyWhenOrOtherwise)

end

/-- Render an include when `room` more may be opened. -/
def includeWithin (setting : Setting σ) : (room : Nat) → Inclusion → Render σ String
  | 0, found => throw (.malformedTag "include" (.includeTooDeep found.reference maxIncludes))
  | room + 1, found =>
    withFrame found.frame (nodes setting (includeWithin setting room) found.nodes)

/-- Render a document. -/
def document (setting : Setting σ) (ns : List Node) : Render σ String :=
  nodes setting (includeWithin setting maxIncludes) ns

end Render

/-- The text of a document for a bag, with the state of expansion afterwards. -/
def render (setting : Setting σ) (ns : List Node) (bag : Json) (expansion : σ) :
    Logged (SqlResult (String × σ)) :=
  let (r, s) := (Render.document setting ns).run ⟨Scope.ofBag bag, expansion, []⟩
  ⟨r.map fun text => (text, s.expansion), s.events⟩

end QueryLoom.Markup

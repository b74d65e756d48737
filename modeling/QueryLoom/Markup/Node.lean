import QueryLoom.Error
import QueryLoom.KeyMap
import QueryLoom.Markup.Token

/-!
# Markup trees

A document is a forest of elements and texts. It is rebuilt from the tokens of the document with a
stack of open elements; neighbouring texts become one.
-/

namespace QueryLoom.Markup

/-- A node of a document. -/
inductive Node where
  | text (s : String)
  | element (name : String) (attributes : KeyMap String) (children : List Node)
  deriving Inhabited

namespace Node

/-! ### Siblings -/

/-- Put a node after its siblings, which come last first. A text joins the text before it. -/
def addTo (siblings : List Node) (node : Node) : List Node :=
  match node, siblings with
  | .text s, .text before :: rest => .text (before ++ s) :: rest
  | node, siblings => node :: siblings

/-! ### Building -/

/-- An element that is not closed yet, with the siblings before it, last first. -/
structure Opened where
  name : String
  attributes : KeyMap String
  before : List Node

/-- A partly read document: the open elements from the innermost outwards, and the nodes read
inside the innermost one, last first. -/
structure Building where
  opened : List Opened
  nodes : List Node

/-- The document before its first token. -/
def Building.empty : Building := ⟨[], []⟩

/-- Read one more token. -/
def Building.add (b : Building) : Token → Except ParseFault Building
  | .opening name attributes => .ok ⟨⟨name, attributes, b.nodes⟩ :: b.opened, []⟩
  | .childless name attributes => .ok { b with nodes := addTo b.nodes (.element name attributes []) }
  | .text s => .ok { b with nodes := addTo b.nodes (.text s) }
  | .aside => .ok b
  | .closing name =>
    match b.opened with
    | [] => .error (.unexpectedClose name)
    | o :: outer =>
      if o.name = name then
        .ok ⟨outer, addTo o.before (.element o.name o.attributes b.nodes.reverse)⟩
      else .error (.crossedClose o.name name)

/-- The nodes of a document whose elements are all closed. -/
def Building.finish (b : Building) : Except ParseFault (List Node) :=
  match b.opened with
  | [] => .ok b.nodes.reverse
  | o :: _ => .error (.unclosedTag o.name)

/-- The forest that a list of tokens describes. -/
def ofTokens (tokens : List Token) : Except ParseFault (List Node) :=
  (tokens.foldlM Building.add .empty).bind Building.finish

/-- Read a document of any number of nodes. -/
def parse (text : String) : SqlResult (List Node) :=
  match Token.ofText text.toList with
  | .error reason => .error (.parse [] (.markup reason))
  | .ok tokens =>
    match ofTokens tokens with
    | .error fault => .error (.parse [] fault)
    | .ok nodes => .ok nodes

end Node

end QueryLoom.Markup

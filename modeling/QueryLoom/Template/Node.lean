import QueryLoom.Error
import QueryLoom.Template.Piece

/-!
# Template trees

A template is a forest of texts, values and blocks. It is rebuilt from the pieces of the template
with a stack of open blocks. A block may have alternatives, each but the last with a condition of
its own; they become blocks inside each other.
-/

namespace QueryLoom.Template

/-- A node of a template. -/
inductive Node where
  | text (s : String)
  | output (i : Invocation)
  | block (i : Invocation) (body : List Node) (alternative : Option (List Node))
  | insertion (i : Invocation) (body : Option (List Node))
  | definition (i : Invocation) (body : List Node)
  | foreignUse

namespace Node

/-! ### Building -/

/-- A block that is not closed yet. -/
structure Opened where
  kind : BlockKind
  /-- What opened the block, before any alternative. -/
  head : Invocation
  /-- The finished parts of the block before the current one, last first. -/
  parts : List (Invocation × List Node)
  /-- What the current part is about; the last alternative is about nothing. -/
  current? : Option Invocation
  /-- The siblings before the block, last first. -/
  before : List Node

/-- A partly read template: the open blocks from the innermost outwards, and the nodes read inside
the innermost one, last first. -/
structure Building where
  opened : List Opened
  nodes : List Node

/-- The template before its first piece. -/
def Building.empty : Building := ⟨[], []⟩

/-- Put a node after the nodes read so far. -/
def Building.push (b : Building) (n : Node) : Building := { b with nodes := n :: b.nodes }

/-- The text of a plain name or a reference. -/
def nameOf? : Target → Option String
  | .name s => some s
  | .reference r => some r.text
  | .computed _ => none

/-- A block from its parts, last first, and its last alternative. -/
def blockOf (alternative : Option (List Node)) : List (Invocation × List Node) → Option (List Node)
  | [] => alternative
  | (i, body) :: parts => blockOf (some [.block i body alternative]) parts

/-- The nodes of a block whose current part has the given nodes. -/
def Opened.close (o : Opened) (nodes : List Node) : List Node :=
  match o.kind with
  | .helper | .verbatim =>
    match o.current? with
    | some i => (blockOf none ((i, nodes) :: o.parts)).getD []
    | none => (blockOf (some nodes) o.parts).getD []
  | .insertion => [.insertion o.head (some nodes)]
  | .definition => [.definition o.head nodes]

/-- Read a tag. -/
def Building.addTag (b : Building) : TagRole → Except String Building
  | .note => .ok b
  | .output i => .ok (b.push (.output i))
  | .insertion i => .ok (b.push (.insertion i none))
  | .foreignUse => .ok (b.push .foreignUse)
  | .opening kind i => .ok ⟨⟨kind, i, [], some i, b.nodes⟩ :: b.opened, []⟩
  | .alternative i? =>
    match b.opened with
    | ⟨.helper, head, parts, some i, before⟩ :: outer =>
      .ok ⟨⟨.helper, head, (i, b.nodes.reverse) :: parts, i?, before⟩ :: outer, []⟩
    | _ => .error "alternative outside a block"
  | .closing verbatim name =>
    match b.opened with
    | [] => .error "closing tag without a block"
    | o :: outer =>
      if nameOf? o.head.target = some name ∧ (o.kind = .verbatim ↔ verbatim = true) then
        .ok ⟨outer, (o.close b.nodes.reverse).reverse ++ o.before⟩
      else .error "closing tag of another block"

/-- Read one more piece. -/
def Building.add (b : Building) : Piece → Except String Building
  | .text cs => .ok (if cs.isEmpty then b else b.push (.text (String.ofList cs)))
  | .tag t _ => b.addTag t.role

/-- The nodes of a template whose blocks are all closed. -/
def Building.finish (b : Building) : Except String (List Node) :=
  match b.opened with
  | [] => .ok b.nodes.reverse
  | _ :: _ => .error "unclosed block"

/-- The forest that a list of pieces describes. -/
def ofPieces (pieces : List Piece) : Except String (List Node) :=
  (pieces.foldlM Building.add .empty).bind Building.finish

/-- Read a template. -/
def parse (text : String) : Except String (List Node) :=
  match Piece.ofText? text.toList with
  | none => .error "malformed tag"
  | some pieces => ofPieces (Piece.layOut false false pieces)

end Node

end QueryLoom.Template

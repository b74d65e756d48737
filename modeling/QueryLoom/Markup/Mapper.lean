import QueryLoom.Markup.Node
import QueryLoom.Text.Trim

/-!
# Mapper documents

A mapper is a document with one `mapper` element around named blocks, one for each statement or
fragment.
-/

namespace QueryLoom.Markup

/-- A named block of a mapper. -/
structure Block where
  kind : String
  id : String
  body : List Node

/-- A mapper. -/
structure Mapper where
  /-- The namespace it declares, if any. -/
  namespaceName? : Option String
  blocks : List Block

namespace Mapper

/-- The kinds of blocks. -/
def blockKinds : List String := ["sql", "select", "insert", "update", "delete"]

/-- The attributes and children of the root among the nodes of a document. -/
def findRoot (found : Option (KeyMap String × List Node)) :
    List Node → SqlResult (KeyMap String × List Node)
  | [] =>
    match found with
    | some root => .ok root
    | none => .error (.malformedTag "mapper" .noMapper)
  | .element name attributes children :: rest =>
    if name = "mapper" then
      if found.isSome then .error (.malformedTag "mapper" .secondMapper)
      else findRoot (some (attributes, children)) rest
    else .error (.malformedTag name .notAMapper)
  | .text s :: rest =>
    if Text.isBlankText s then findRoot found rest
    else .error (.parse [] .textOutsideMapper)

/-- The block of a child of the root; texts and result maps are none. -/
def readBlock : Node → SqlResult (Option Block)
  | .text _ => .ok none
  | .element name attributes children =>
    if name = "resultMap" then .ok none
    else if !blockKinds.contains name then .error (.malformedTag name .unsupportedBlock)
    else
      match KeyMap.get? "id" attributes with
      | some id =>
        if Text.isBlankText id then .error (.malformedTag name (.missingAttribute "id"))
        else .ok (some ⟨name, Text.trimmed id, children⟩)
      | none => .error (.malformedTag name (.missingAttribute "id"))

/-- The mapper in the nodes of a document. -/
def ofNodes (nodes : List Node) : SqlResult Mapper := do
  let (attributes, children) ← findRoot none nodes
  let blocks ← children.mapM readBlock
  return ⟨KeyMap.get? "namespace" attributes, blocks.filterMap id⟩

/-- Read a mapper. -/
def parse (text : String) : SqlResult Mapper :=
  (Node.parse text).bind ofNodes

end Mapper

end QueryLoom.Markup

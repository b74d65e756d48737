import QueryLoom.Entity.Basic
import QueryLoom.Text.Words

/-!
# Candidate ids

A template is stored under a qualified id, `namespace.id`. A request that names only the last part
looks under several namespaces: those that the templates of an entity may have been filed under.
-/

namespace QueryLoom

/-- The part of an id in front of its first dot. -/
def namespaceOf (id : String) : String :=
  String.ofList (id.toList.takeWhile (· != '.'))

/-- The namespaces that the templates of an entity may have been filed under. -/
def entityNamespaces (table entity : String) : List String :=
  let spelling (f : List Char → List Char) : String := String.ofList (f entity.toList)
  [table, spelling Text.camelCase, spelling Text.pascalCase, spelling Text.kebabCase]

/-- The ids to try for `id`, requested for an entity. A qualified id stands for itself. -/
def candidateIds (id table entity : String) : List String :=
  if id.toList.contains '.' then [id]
  else
    (((entityNamespaces table entity).filter (!·.isEmpty)).map (· ++ "." ++ id)).eraseDups

/-- The ids to try for `id`, requested for an entity. -/
def Entity.candidateIds (e : Entity) (id : String) : List String :=
  QueryLoom.candidateIds id e.tableBase e.name

end QueryLoom

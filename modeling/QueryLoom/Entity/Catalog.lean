import QueryLoom.Entity.Basic
import QueryLoom.Event

/-!
# Catalogs of entities

Entities are registered under their names. A later one takes the place of an earlier one of the
same name.
-/

namespace QueryLoom

/-- Entities by name. -/
abbrev Catalog := KeyMap Entity

namespace Catalog

/-- Register an entity under its name. -/
def register (e : Entity) (c : Catalog) : Logged Catalog := do
  Logged.record (.entityRegistered e.name e.fields.length)
  return KeyMap.insert e.name e c

/-- The fields of a registered entity in declaration order. -/
def describe (name : String) (c : Catalog) : SqlResult (List Field) :=
  match KeyMap.get? name c with
  | some e => .ok e.fields
  | none => .error (.entity (.unknownEntity name))

end Catalog

end QueryLoom

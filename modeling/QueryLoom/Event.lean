import QueryLoom.Error
import QueryLoom.Json.Value
import QueryLoom.Text.Trim

/-!
# Events

What happens beside the results is recorded as events, in order. An event knows how serious it is,
which part of the system it comes from, and its data.
-/

namespace QueryLoom

/-- How serious an event is. -/
inductive Level where
  | trace
  | debug
  | warn
  deriving DecidableEq

/-- The part of the system an event comes from. -/
inductive Topic where
  | batch
  | registry
  | sql
  | markup
  | exec
  deriving DecidableEq

/-- Something that happened. -/
inductive Event where
  | insertBuilt (entity mode : String) (records steps : Nat)
  | updateBuilt (entity : String) (records steps : Nat)
  | deleteBuilt (entity mode : String) (logical : Bool) (steps : Nat)
  | selectBuilt (entity mode : String) (steps : Nat)
  | entityRegistered (entity : String) (fields : Nat)
  | templateRegistered (id kind : String)
  | templateReplaced (id previous : String)
  | fileLoaded (file namespaceName : String) (count : Nat)
  | unbalanced (template : String) (error : SqlError)
  | compiled (template kind : String) (paramCount : Nat) (sql : String)
  | conditionFailed (expression : String) (error : SqlError)
  | stepFailed (step : Nat) (sql : String) (error : SqlError)

/-- A result with the events on the way to it. -/
structure Logged (α : Type) where
  value : α
  events : List Event

instance : Monad Logged where
  pure a := ⟨a, []⟩
  bind l f := ⟨(f l.value).value, l.events ++ (f l.value).events⟩

/-- A result, or the error that prevented it, with the events on the way. -/
abbrev LoggedResult := ExceptT SqlError Logged

/-- Record an event. -/
def Logged.record (e : Event) : Logged Unit := ⟨(), [e]⟩

namespace Event

/-- How serious an event is. -/
def level : Event → Level
  | .insertBuilt .. | .updateBuilt .. | .deleteBuilt .. | .selectBuilt .. => .trace
  | .entityRegistered .. | .templateRegistered .. | .fileLoaded .. | .compiled .. => .debug
  | .conditionFailed .. => .debug
  | .templateReplaced .. | .unbalanced .. | .stepFailed .. => .warn

/-- Where an event comes from. -/
def topic : Event → Topic
  | .insertBuilt .. | .updateBuilt .. | .deleteBuilt .. | .selectBuilt .. => .batch
  | .entityRegistered .. | .templateRegistered .. | .templateReplaced .. | .fileLoaded .. =>
    .registry
  | .unbalanced .. | .compiled .. => .sql
  | .conditionFailed .. => .markup
  | .stepFailed .. => .exec

/-- The text of an event. -/
def message : Event → String
  | .insertBuilt .. => "insert statements built"
  | .updateBuilt .. => "update statements built"
  | .deleteBuilt .. => "delete statements built"
  | .selectBuilt .. => "select statements built"
  | .entityRegistered .. => "entity registered"
  | .templateRegistered .. => "template registered"
  | .templateReplaced .. => "template replaced"
  | .fileLoaded .. => "template file loaded"
  | .unbalanced .. => "compiled SQL is unbalanced"
  | .compiled .. => "compiled"
  | .conditionFailed .. => "condition treated as false"
  | .stepFailed .. => "plan step failed"

/-- The data of an event. -/
def fields : Event → List (String × Json)
  | .insertBuilt entity mode records steps =>
    [("entity", .string entity), ("mode", .string mode), ("records", .int records),
      ("steps", .int steps)]
  | .updateBuilt entity records steps =>
    [("entity", .string entity), ("records", .int records), ("steps", .int steps)]
  | .deleteBuilt entity mode logical steps =>
    [("entity", .string entity), ("mode", .string mode), ("logical", .bool logical),
      ("steps", .int steps)]
  | .selectBuilt entity mode steps =>
    [("entity", .string entity), ("mode", .string mode), ("steps", .int steps)]
  | .entityRegistered entity fields => [("entity", .string entity), ("fields", .int fields)]
  | .templateRegistered id kind => [("id", .string id), ("kind", .string kind)]
  | .templateReplaced id previous => [("id", .string id), ("previous", .string previous)]
  | .fileLoaded file namespaceName count =>
    [("file", .string file), ("namespace", .string namespaceName), ("count", .int count)]
  | .unbalanced template error =>
    [("template", .string template), ("error", .string error.message)]
  | .compiled template kind paramCount sql =>
    [("template", .string template), ("kind", .string kind), ("param_count", .int paramCount),
      ("sql", .string sql)]
  | .conditionFailed expression error =>
    [("expr", .string expression), ("error", .string error.message)]
  | .stepFailed step sql error =>
    [("step", .int step), ("sql", .string sql), ("error", .string error.message)]

/-- SQL cut to at most `limit` bytes, in front of a whole character. There is none where it cannot
be cut. -/
def clip? (limit : Nat) (sql : String) : Option String :=
  if sql.utf8ByteSize ≤ limit then some sql else Text.upTo? sql (Text.boundaryBefore sql limit)

theorem isSome_clip? (limit : Nat) (sql : String) : (clip? limit sql).isSome = true := by
  unfold clip? Text.upTo?
  split
  · rfl
  · rw [dif_pos (Text.isValid_boundaryBefore sql limit)]
    rfl

/-- SQL as it is logged. -/
def clipped (limit : Nat) (sql : String) : String :=
  (clip? limit sql).get (isSome_clip? limit sql)

end Event

end QueryLoom

import QueryLoom.Decimal.Natural
import QueryLoom.Json.Value
import QueryLoom.Text.Trim
import QueryLoom.Text.Words

/-!
# Paths into values

A path such as `user.tags[0]` is a sequence of keys and indices. A path that leads nowhere is tried
again with every key in its camel spelling and then with every key in its snake spelling. That a
path leads nowhere is different from leading to `null`.
-/

namespace QueryLoom

/-- One step of a path. -/
inductive PathStep where
  | key (name : String)
  | index (n : Nat)
  deriving DecidableEq, Repr

/-- A sequence of steps. -/
abbrev Path := List PathStep

namespace Path

/-! ### Reading -/

/-- The indices in brackets that make up the whole of `cs`; `budget` bounds their number. -/
def readIndices? : (budget : Nat) → List Char → Option Path
  | _, [] => some []
  | 0, _ => none
  | budget + 1, '[' :: cs => do
    let (inside, rest) ← Text.cutAt? [']'] cs
    let n ← Decimal.readIndex? (Text.trim inside)
    let more ← readIndices? budget rest
    return .index n :: more
  | _, _ => none

/-- The steps between two dots: a key, indices, or a key and indices. -/
def readSegment? (cs : List Char) : Option Path := do
  let key := cs.takeWhile (· ≠ '[')
  let rest := cs.dropWhile (· ≠ '[')
  if key.isEmpty && rest.isEmpty then none
  let indices ← readIndices? rest.length rest
  return if key.isEmpty then indices else .key (String.ofList key) :: indices

/-- Read a path; a malformed one has no steps. -/
def parse? (text : String) : Option Path :=
  let cs := Text.trim text.toList
  if cs.isEmpty then none
  else ((cs.splitOn '.').mapM readSegment?).map List.flatten

/-! ### Walking -/

/-- Take one step from a value. A key that is a number also steps into an array. -/
def PathStep.follow? : PathStep → Json → Option Json
  | .key k, .object entries => KeyMap.get? k entries
  | .key k, .array items => (Decimal.readIndex? k.toList).bind (items[·]?)
  | .index n, .array items => items[n]?
  | _, _ => none

/-- The value a path leads to. -/
def walk? : Path → Json → Option Json
  | [], value => some value
  | s :: path, value => (PathStep.follow? s value).bind (walk? path)

/-- Change the spelling of every key. -/
def respell (f : String → String) (path : Path) : Path :=
  path.map fun
    | .key k => .key (f k)
    | .index n => .index n

/-- The spellings of a path in the order they are tried. -/
def spellings (path : Path) : List Path :=
  [path, path.respell Text.snakeToCamel, path.respell Text.camelToSnake]

end Path

/-- The value a path leads to in a bag, in the first spelling that leads anywhere. -/
def Json.resolve? (bag : Json) (path : String) : Option Json :=
  (Path.parse? path).bind fun p => p.spellings.findSome? fun q => Path.walk? q bag

end QueryLoom

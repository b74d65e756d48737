import QueryLoom.Path

/-!
# Layered scopes

While a document is rendered, names are looked up in a stack of frames above the caller's bag. The
bag never changes, and the lowest frame is never removed. An upper frame hides a whole key of what
is below it.
-/

namespace QueryLoom

/-- A bag under a non-empty stack of frames. -/
structure Scope where
  base : Json
  top : KeyMap Json
  below : List (KeyMap Json)

namespace Scope

/-- A bag under one empty frame. -/
def ofBag (bag : Json) : Scope := ⟨bag, [], []⟩

/-- The frames from the topmost to the lowest. -/
def frames (s : Scope) : List (KeyMap Json) := s.top :: s.below

/-- Put a frame on top. -/
def push (frame : KeyMap Json) (s : Scope) : Scope := ⟨s.base, frame, s.top :: s.below⟩

/-- Remove the topmost frame, unless it is the lowest. -/
def pop (s : Scope) : Scope :=
  match s.below with
  | [] => s
  | top :: below => ⟨s.base, top, below⟩

/-- Give a key a value in the topmost frame. -/
def set (key : String) (value : Json) (s : Scope) : Scope :=
  { s with top := s.top.insert key value }

/-- The value a path leads to in one spelling. -/
def lookup? (s : Scope) (path : Path) : Option Json :=
  match path with
  | .key k :: rest =>
    match s.frames.findSome? (KeyMap.get? k) with
    | some value => Path.walk? rest value
    | none => Path.walk? path s.base
  | _ => Path.walk? path s.base

/-- The value a path leads to, in the first spelling that leads anywhere. -/
def resolve? (s : Scope) (path : String) : Option Json :=
  (Path.parse? path).bind fun p => p.spellings.findSome? s.lookup?

/-- One object with the entries of all layers, the upper ones winning. -/
def flatten (s : Scope) : Json :=
  let bottom := match s.base with
    | .object entries => entries
    | _ => []
  .object (s.frames.foldr (fun frame acc => KeyMap.overlay acc frame) bottom)

@[simp] theorem frames_push (frame : KeyMap Json) (s : Scope) :
    (s.push frame).frames = frame :: s.frames := rfl

@[simp] theorem pop_push (frame : KeyMap Json) (s : Scope) : (s.push frame).pop = s := rfl

end Scope

end QueryLoom

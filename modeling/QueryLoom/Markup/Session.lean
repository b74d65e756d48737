import QueryLoom.Event
import QueryLoom.Markup.Marker
import QueryLoom.Markup.Node

/-!
# Rendering sessions

What changes while a document is rendered: the scope, the state of template expansion, and the
events so far. A session outlives an error, so the frames that were pushed are popped again and the
events are kept.
-/

namespace QueryLoom.Markup

/-- What changes while a document is rendered. -/
structure Session (σ : Type) where
  scope : Scope
  expansion : σ
  events : List Event

/-- What stays the same while a document is rendered. -/
structure Setting (σ : Type) where
  /-- Where fragments that are included are looked for. -/
  namespaces : List String
  /-- The fragment of a full name. -/
  fragment? : String → Option (List Node)
  dialect : Dialect
  /-- Expand template text for a view. -/
  expand : String → Json → σ → SqlResult (String × σ)

/-- A step of rendering. -/
abbrev Render (σ : Type) := ExceptT SqlError (StateM (Session σ))

namespace Render

variable {σ α : Type}

/-- The current scope. -/
def scope : Render σ Scope := return (← get).scope

/-- Record an event. -/
def record (e : Event) : Render σ Unit :=
  modify fun s => { s with events := s.events ++ [e] }

/-- Give a key a value in the topmost frame. -/
def setValue (key : String) (value : Json) : Render σ Unit :=
  modify fun s => { s with scope := s.scope.set key value }

/-- Take a step under one more frame, which is removed again also after an error. -/
def withFrame (frame : KeyMap Json) (step : Render σ α) : Render σ α :=
  ExceptT.mk do
    modify fun s => { s with scope := s.scope.push frame }
    let r ← step.run
    modify fun s => { s with scope := s.scope.pop }
    return r

/-- Expand template text, if there is any. -/
def expand (setting : Setting σ) (text : String) : Render σ String :=
  if Text.contains text "\x7b\x7b" then do
    let s ← get
    let (text, expansion) ← setting.expand text s.scope.flatten s.expansion
    set { s with expansion := expansion }
    return text
  else return text

/-- Replace the markers of a text. -/
def replaceMarkers (setting : Setting σ) (text : String) : Render σ String := do
  substitute (← scope) setting.dialect text

end Render

end QueryLoom.Markup

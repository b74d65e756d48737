import QueryLoom.Decimal.Natural
import QueryLoom.Json.Printer
import QueryLoom.Template.Reference

/-!
# Environments

References are looked up in a stack of layers, one for each block around. A layer either looks at a
place of the data or has a value of its own; it may also have variables and names for values.
-/

namespace QueryLoom.Template

/-! ### Layers -/

/-- What a name of a block stands for. -/
inductive Bound where
  | value (v : Json)
  /-- The place that the layer looks at. -/
  | place
  deriving Inhabited

/-- What a block adds to the environment. -/
structure Layer where
  /-- The place of the data that the layer looks at. -/
  place : List String
  /-- The value of the layer; it hides the place. -/
  value? : Option Json
  names : List (String × Bound)
  locals : KeyMap Json

/-- The layer of the whole data. -/
def Layer.whole : Layer := ⟨[], none, [], []⟩

/-- The layer of a value. -/
def Layer.ofValue (v : Json) : Layer := ⟨[], some v, [], []⟩

/-- The layer of a place. -/
def Layer.ofPlace (place : List String) : Layer := ⟨place, none, [], []⟩

/-- What references are looked up in: the data and the layers, the innermost first. -/
structure Environment where
  data : Json
  layers : List Layer

/-- The environment of a whole view. -/
def Environment.ofView (view : Json) : Environment := ⟨view, [.whole]⟩

/-- What a reference leads to: a value, if there is one, and its place in the data, if it has
one. -/
structure Found where
  value? : Option Json
  place? : Option (List String)

/-- The value that was found, or null. -/
def Found.value (f : Found) : Json := f.value?.getD .null

/-- A value without a place. -/
def Found.ofValue (v : Json) : Found := ⟨some v, none⟩

namespace Environment

/-! ### Walking -/

/-- The value that names lead to. In an array a name has to be an index. -/
def walk : List String → Json → Except String (Option Json)
  | [], v => .ok (some v)
  | name :: names, .array items =>
    match Decimal.readIndex? name.toList with
    | none => .error "array index expected"
    | some i =>
      match items[i]? with
      | some item => walk names item
      | none => .ok none
  | name :: names, .object entries =>
    match KeyMap.get? name entries with
    | some v => walk names v
    | none => .ok none
  | _ :: _, _ => .ok none

/-- What names lead to from a place of the data. -/
def fromPlace (env : Environment) (place names : List String) : Except String Found :=
  (walk (place ++ names) env.data).map fun
    | some v => ⟨some v, some (place ++ names)⟩
    | none => ⟨none, none⟩

/-- What names lead to from a value. -/
def fromValue (v : Json) (names : List String) : Except String Found :=
  (walk names v).map fun v? => ⟨v?, none⟩

/-- What names lead to from a layer, or from the data if there is no layer. -/
def fromLayer (env : Environment) (layer? : Option Layer) (names : List String) :
    Except String Found :=
  match layer? with
  | none => env.fromPlace [] names
  | some l =>
    match l.value? with
    | some v => fromValue v names
    | none => env.fromPlace l.place names

/-! ### References -/

/-- The innermost layer with a name, and what the name stands for there. -/
def bound? (env : Environment) (name : String) : Option (Layer × Bound) :=
  env.layers.findSome? fun l => (l.names.lookup name).map fun b => (l, b)

/-- What steps lead to that are no variable. -/
def resolveSteps (env : Environment) (steps : List RefStep) : Except String Found :=
  let after := steps.dropWhile (· == .up)
  let ups := steps.length - after.length
  let names := Reference.names steps
  let climbed : Except String Found :=
    if ups = 0 then env.fromLayer env.layers.head? names
    else env.fromLayer (env.layers[ups]?.or env.layers.head?) names
  match after with
  | .root :: _ => if ups = 0 then env.fromPlace [] names else climbed
  | .name n :: rest =>
    match env.bound? n with
    | some (_, .value v) => fromValue v (Reference.names rest)
    | some (l, .place) => env.fromPlace l.place (Reference.names rest)
    | none => climbed
  | _ => climbed

/-- What a reference leads to. -/
def resolve (env : Environment) (r : Reference) : Except String Found :=
  match r.steps with
  | .marked :: rest =>
    let after := rest.dropWhile (· == .up)
    match after with
    | .name n :: _ =>
      let layer? := env.layers[rest.length - after.length]?
      .ok ⟨layer?.bind fun l => KeyMap.get? n l.locals, none⟩
    | _ => env.resolveSteps r.steps
  | steps => env.resolveSteps steps

/-- The current value. -/
def current (env : Environment) : Except String Json :=
  (env.resolve .current).map Found.value

/-- The environment inside one more block. -/
def push (l : Layer) (env : Environment) : Environment := { env with layers := l :: env.layers }

end Environment

/-! ### Texts of values -/

mutual

/-- The text of a value in a template. -/
def valueText : Json → String
  | .null => ""
  | .string s => s
  | .array items => "[" ++ itemsText items ++ "]"
  | .object _ => "[object]"
  | .bool b => (Json.bool b).compact
  | .int n => (Json.int n).compact
  | .float f => (Json.float f).compact

/-- The texts of the items of an array. -/
def itemsText : List Json → String
  | [] => ""
  | [v] => valueText v
  | v :: w :: rest => valueText v ++ ", " ++ itemsText (w :: rest)

end

end QueryLoom.Template

import QueryLoom.KeyMap

/-!
# TOML values

The values of a TOML document, and the rules by which its lines build up tables. A table that was
written in one way cannot be added to in another one, so each table knows how it came about.
-/

namespace QueryLoom.Toml

/-- How a table came about. -/
inductive Origin where
  /-- Between braces; nothing can be added to it. -/
  | inline
  /-- On the way to the table of a header. -/
  | implied
  /-- By a header of its own. -/
  | header
  /-- On the way of a dotted key. -/
  | dotted
  deriving DecidableEq, Repr

/-- A value of a document. -/
inductive Value where
  | string (text : String)
  | integer (n : Int)
  | float (f : Float)
  | boolean (b : Bool)
  /-- A date, a time of day, or both. -/
  | dateTime (text : String)
  | array (items : List Value)
  | table (origin : Origin) (entries : List (String × Value))
  /-- Tables with the same header; the last one is still open. -/
  | tables (earlier : List (List (String × Value))) (last : List (String × Value))

/-- The entries of a table. -/
abbrev Entries := KeyMap Value

/-! ### Building tables -/

/-- How a path leads through tables: the path of a header, or that of a dotted key. -/
inductive Passage where
  | header
  | dotted
  deriving DecidableEq

/-- The origin of a table that is made on the way. -/
def Passage.origin : Passage → Origin
  | .header => .implied
  | .dotted => .dotted

/-- Whether the way may lead through a table. -/
def Passage.admits : Passage → Origin → Bool
  | .header, origin => origin != .inline
  | .dotted, origin => origin == .dotted

/-- A change of a table. -/
abbrev Change := Entries → Except String Entries

/-- Change the value of a key, if there is one. -/
def alter (f : Option Value → Except String Value) (key : String) : Change := fun es =>
  (f (KeyMap.get? key es)).map fun v => KeyMap.insert key v es

/-- Change the table that is the value of a key; an absent one is made. -/
def enter (p : Passage) (f : Change) : Option Value → Except String Value
  | none => (f []).map (.table p.origin)
  | some (.table origin es) =>
    if p.admits origin then (f es).map (.table origin) else .error "the table is complete"
  | some (.tables earlier last) =>
    if p = .header then (f last).map (.tables earlier) else .error "the table is complete"
  | some _ => .error "the value is not a table"

/-- Change the table that a path leads to. -/
def descend (p : Passage) (path : List String) (f : Change) : Change :=
  path.foldr (fun key f => alter (enter p f) key) f

/-- Give a new key a value. -/
def put (key : String) (v : Value) : Change :=
  alter (fun old => match old with
    | none => .ok v
    | some _ => .error "the key is there already") key

/-- Open the table of a header. -/
def openTable (key : String) : Change :=
  alter (fun old => match old with
    | none => .ok (.table .header [])
    | some (.table .implied es) => .ok (.table .header es)
    | some _ => .error "the table is there already") key

/-- Open one more of the tables with the same header. -/
def openNext (key : String) : Change :=
  alter (fun old => match old with
    | none => .ok (.tables [] [])
    | some (.tables earlier last) => .ok (.tables (earlier ++ [last]) [])
    | some _ => .error "the key is there already") key

end QueryLoom.Toml

import QueryLoom.Config
import QueryLoom.Toml.Document

/-!
# Settings in a file

Settings are written as a TOML document. What is not written has its standard value, and what is not
known does not count.
-/

namespace QueryLoom.Config

/-! ### Values -/

/-- A number of 64 bits without sign. -/
def natural (v : Toml.Value) : Except String Nat :=
  match v with
  | .integer n => if 0 ≤ n && n < (Nat.pow 2 64 : Int) then .ok n.toNat else .error "the number is out of range"
  | _ => .error "a number is expected"

/-- A truth value. -/
def flag (v : Toml.Value) : Except String Bool :=
  match v with
  | .boolean b => .ok b
  | _ => .error "a truth value is expected"

/-- One of several names: as text, or as the only key of a table, with an empty array or table. -/
def choice (ofName? : String → Option α) (v : Toml.Value) : Except String α :=
  let named (name : String) : Except String α :=
    match ofName? name with
    | some a => .ok a
    | none => .error ("the name is not known: " ++ name)
  match v with
  | .string name => named name
  | .table _ [(name, .array [])] | .table _ [(name, .table _ [])] => named name
  | _ => .error "a name is expected"

/-- The layout of a name. -/
def styleOfName? : String → Option FormatStyle
  | "compact" => some .compact
  | "pretty" => some .pretty
  | _ => none

/-! ### Tables -/

/-- The value of a key, or the standard value if the key is absent. -/
def fieldOr (standard : α) (read : Toml.Value → Except String α) (v? : Option Toml.Value) :
    Except String α :=
  match v? with
  | some v => read v
  | none => .ok standard

/-- What is left out: a table, or an array of the same values in order. -/
def skipPolicy (v : Toml.Value) : Except String SkipPolicy := do
  let field? : String → Nat → Option Toml.Value ← match v with
    | .table _ es => .ok fun key _ => KeyMap.get? key es
    | .array items => .ok fun _ position => items[position]?
    | _ => .error "a table is expected"
  return ⟨← fieldOr true flag (field? "skip_undefined" 0),
    ← fieldOr true flag (field? "skip_null" 1),
    ← fieldOr true flag (field? "skip_empty_string" 2)⟩

/-- The settings of a document. -/
def ofEntries (es : Toml.Entries) : Except String Config := do
  let field? (key : String) : Option Toml.Value := KeyMap.get? key es
  return ⟨← fieldOr standard.dialect (choice Dialect.ofName?) (field? "dialect"),
    ← fieldOr standard.skip skipPolicy (field? "skip"),
    ← fieldOr standard.maxDeal natural (field? "max_deal"),
    ← fieldOr standard.format (choice styleOfName?) (field? "format"),
    ← fieldOr standard.logSqlMaxLen natural (field? "log_sql_max_len")⟩

/-! ### Documents -/

/-- The settings of the text of a document. -/
def ofText (text : String) : SqlResult Config :=
  match (Toml.parse text).bind ofEntries with
  | .error reason => .error (.config (.malformed reason))
  | .ok c => c.validate.map fun _ => c

/-- The settings of a file, of which there is a text if it can be read. -/
def ofFile (path : String) (text? : Option String) : SqlResult Config :=
  match text? with
  | none => .error (.config (.unreadableFile path))
  | some text =>
    match ofText text with
    | .error (.config fault) => .error (.config (.inFile path fault))
    | r => r

end QueryLoom.Config

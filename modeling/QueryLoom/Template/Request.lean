import QueryLoom.Ident
import QueryLoom.Json.Value
import QueryLoom.Text.Trim

/-!
# Requests

What a query is asked for: rows, their number or a summary of them, with a sort column, a page and
the parameters. Templates see a request as one object, in which the parameters hide the other
entries.
-/

namespace QueryLoom

/-- What a query is compiled for. -/
inductive QueryKind where
  /-- The rows themselves. -/
  | normal
  /-- The number of rows. -/
  | count
  /-- A summary of all rows. -/
  | sum
  deriving DecidableEq, Repr

namespace QueryKind

/-- Whether the answer is about all rows, so that neither order nor page matters. -/
def isAggregate : QueryKind → Bool
  | .normal => false
  | .count => true
  | .sum => true

/-- The name of the kind in events. -/
def name : QueryKind → String
  | .normal => "Normal"
  | .count => "Count"
  | .sum => "Sum"

end QueryKind

/-- The direction of a sort. -/
inductive SortDirection where
  | asc
  | desc
  deriving DecidableEq, Repr

namespace SortDirection

/-- The keyword of the direction. -/
def keyword : SortDirection → String
  | .asc => "ASC"
  | .desc => "DESC"

/-- Read a direction, in letters of any case. -/
def parse (text : String) : SqlResult SortDirection :=
  let word := String.ofList ((Text.trim text.toList).map Char.toUpper)
  if word = "ASC" then .ok .asc
  else if word = "DESC" then .ok .desc
  else .error (.validation (.sortType word))

end SortDirection

/-- A column to sort by. -/
structure SortKey where
  column : Ident
  direction : SortDirection

/-- What a template is expanded for. -/
structure Request where
  kind : QueryKind
  sort? : Option SortKey
  limitStart? : Option Nat
  limitEnd? : Option Nat
  /-- The parameters. -/
  params : Json
  /-- Whatever the caller wants templates to see as `ctx`. -/
  context : Json

namespace Request

/-- A request for rows, without parameters. -/
def standard : Request := ⟨.normal, none, none, none, .null, .null⟩

/-- Sort by a column, given as text. -/
def sortedBy (column : String) (direction : SortDirection) (r : Request) : SqlResult Request :=
  (Ident.parse column).map fun id => { r with sort? := some ⟨id, direction⟩ }

/-- The sort column and its direction, as they stand in an order clause. -/
def orderBy? (r : Request) (d : Dialect) : Option String :=
  r.sort?.map fun s => s.column.toSql d ++ " " ++ s.direction.keyword

/-- The entries of the request itself, below those of the parameters. -/
def ownEntries (r : Request) : List (String × Json) :=
  [("ctx", r.context), ("isCount", .bool (r.kind = .count)), ("isSum", .bool (r.kind = .sum))] ++
    (match r.sort? with
      | some s => [("sortName", .string (s.column.toSql .mysql)),
          ("sortType", .string s.direction.keyword)]
      | none => []) ++
    (r.limitStart?.map fun n => ("limitStart", Json.int n)).toList ++
    (r.limitEnd?.map fun n => ("limitEnd", Json.int n)).toList

/-- The object that templates see. -/
def view (r : Request) : Json :=
  let own := KeyMap.ofEntries r.ownEntries
  match r.params with
  | .object entries => .object (KeyMap.overlay own entries)
  | _ => .object own

end Request

end QueryLoom

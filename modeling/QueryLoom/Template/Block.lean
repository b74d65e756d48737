import QueryLoom.Template.Clause
import QueryLoom.Template.Request

/-!
# SQL blocks

Blocks of a template with a name of their own: their text is rewritten into a clause, or left out
for some kinds of request. An expansion remembers whether the requested order has been written.
-/

namespace QueryLoom

/-- A block that knows about SQL. -/
inductive SqlBlock where
  | page
  | sum
  | notPage
  | whereClause
  | hump
  | trim
  | order
  | group
  | between
  | distance
  | enum
  deriving DecidableEq, Repr

/-- What is shared by all that is rendered for one request. -/
structure Expansion where
  kind : QueryKind
  orderBy? : Option String
  /-- Whether an order block has been rendered. -/
  orderWritten : Bool
  dialect : Dialect
  enums : Clause.EnumTable

namespace Expansion

/-- The expansion of a request before anything is rendered. -/
def ofRequest (r : Request) (d : Dialect) (enums : Clause.EnumTable) : Expansion :=
  ⟨r.kind, r.orderBy? d, false, d, enums⟩

/-- The requested order, if it still has to be written. -/
def pendingOrder? (x : Expansion) : Option String :=
  if x.orderWritten || x.kind.isAggregate then none else x.orderBy?

end Expansion

namespace SqlBlock

/-- The names of the blocks. -/
def names : List (String × SqlBlock) := [
  ("page", .page), ("sum", .sum), ("notPage", .notPage), ("where", .whereClause), ("whereTag", .whereClause),
  ("hump", .hump), ("trim", .trim), ("order", .order), ("group", .group), ("between", .between),
  ("distance", .distance), ("enum", .enum), ("enumTag", .enum)]

/-- The block of a name. -/
def ofName? (name : String) : Option SqlBlock := names.lookup name

/-- What is selected when rows are counted. -/
def countExpr : String := "COUNT(1) zccw1986 "

/-- The text that stands for a block whatever its content, if there is one. -/
def fixedText? (b : SqlBlock) (kind : QueryKind) : Option String :=
  match b, kind with
  | .page, .normal => none
  | .page, .count => some countExpr
  | .page, .sum => some ""
  | .sum, kind => if kind = .sum then none else some ""
  | .notPage, kind | .group, kind | .order, kind => if kind.isAggregate then some "" else none
  | _, _ => none

/-- Enter a block: the text that stands for it, if its content does not matter. An order block
that is entered writes the requested order. -/
def enter (b : SqlBlock) (x : Expansion) : Option String × Expansion :=
  match b.fixedText? x.kind with
  | some text => (some text, x)
  | none => (none, if b = .order then { x with orderWritten := true } else x)

/-- The clause that a rendered block stands for. -/
def clause (b : SqlBlock) (x : Expansion) (rendered : List Char) : List Char :=
  match b with
  | .page | .sum | .notPage => rendered
  | .whereClause => Clause.whereWrap rendered
  | .hump => Clause.hump rendered
  | .trim => Clause.trimEdges rendered
  | .order => Clause.orderBy x.orderBy? rendered
  | .group => Clause.groupBy rendered
  | .between => Clause.between x.dialect rendered
  | .distance => Clause.distance rendered
  | .enum => Clause.enumCase x.enums x.dialect rendered

end SqlBlock

end QueryLoom

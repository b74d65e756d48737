import QueryLoom.Ident
import QueryLoom.Json.Value

/-!
# Statements

SQL under construction keeps its text apart from the values to bind: the text has a place for each
value, and the places take the values in order. Placeholders are written only when the statement is
built, so they are numbered without gaps however the parts were put together.
-/

namespace QueryLoom

/-- SQL text with its bound values, in the order of the placeholders. -/
structure Statement where
  sql : String
  params : List Json

/-- A part of SQL: text, or the place of a bound value. -/
inductive SqlPart where
  | raw (s : String)
  | param
  deriving DecidableEq, Repr

/-- SQL under construction. The places among the parts take the values in order. -/
structure Sql where
  parts : List SqlPart
  params : List Json

namespace Sql

/-! ### Operations -/

/-- Nothing. -/
def empty : Sql := ⟨[], []⟩

/-- A piece of text. -/
def text (s : String) : Sql := ⟨[.raw s], []⟩

/-- Put text after some parts; a text that is last takes it in. -/
def addText (s : String) : List SqlPart → List SqlPart
  | [] => [.raw s]
  | [.raw last] => [.raw (last ++ s)]
  | part :: parts => part :: addText s parts

/-- Append text. -/
def push (q : Sql) (s : String) : Sql :=
  if s.isEmpty then q else { q with parts := addText s q.parts }

/-- Append a placeholder for a value. -/
def pushBind (q : Sql) (value : Json) : Sql := ⟨q.parts ++ [.param], q.params ++ [value]⟩

/-- Append placeholders for a list of values, separated by commas; no values are `NULL`. -/
def pushBindList (q : Sql) : List Json → Sql
  | [] => q.push "NULL"
  | value :: values => values.foldl (fun q v => (q.push ", ").pushBind v) (q.pushBind value)

/-- Append an identifier in a dialect. -/
def pushIdent (q : Sql) (id : Ident) (d : Dialect) : Sql := q.push (id.toSql d)

/-- Append other SQL. -/
def pushSql (q other : Sql) : Sql := ⟨q.parts ++ other.parts, q.params ++ other.params⟩

/-- Let `f` append each item, with a separator between the items. -/
def pushJoined {α : Type} (q : Sql) (items : List α) (sep : String) (f : Sql → α → Sql) : Sql :=
  match items with
  | [] => q
  | x :: xs => xs.foldl (fun q y => f (q.push sep) y) (f q x)

instance : Append Sql := ⟨pushSql⟩

/-! ### Pieces of SQL -/

/-- A placeholder for a value. -/
def bind (value : Json) : Sql := empty.pushBind value

/-- Placeholders for a list of values, separated by commas; no values are `NULL`. -/
def bindList (values : List Json) : Sql := empty.pushBindList values

/-- Pieces of SQL with a separator between them. -/
def joined (sep : String) (qs : List Sql) : Sql := empty.pushJoined qs sep pushSql

/-- Pieces of SQL one after the other. -/
def concat : List Sql → Sql
  | [] => empty
  | q :: qs => q ++ concat qs

/-! ### Views -/

/-- Whether there is neither text nor a place for a value. -/
def isBlank (q : Sql) : Bool :=
  q.parts.all fun
    | .raw s => s.isEmpty
    | .param => false

/-- The texts of the parts, with placeholders numbered from `index` on. -/
def texts (d : Dialect) : (index : Nat) → List SqlPart → List String
  | _, [] => []
  | index, .raw s :: parts => s :: texts d index parts
  | index, .param :: parts => d.placeholder index :: texts d (index + 1) parts

/-- The text with placeholders numbered from one on. -/
def render (q : Sql) (d : Dialect) : String := String.join (texts d 1 q.parts)

/-- The finished statement. -/
def build (q : Sql) (d : Dialect) : Statement := ⟨q.render d, q.params⟩

end Sql

end QueryLoom

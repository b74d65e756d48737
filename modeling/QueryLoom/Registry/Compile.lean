import QueryLoom.Binding
import QueryLoom.Markup.Render
import QueryLoom.Registry.Basic
import QueryLoom.Registry.Candidates
import QueryLoom.Registry.Page
import QueryLoom.SqlToken.Layout

/-!
# Compiling templates

A request is answered by the first registered one of its candidates: its template is expanded to
SQL text, the markers in it become bound values, and the text is laid out. A page takes the rows,
and where they are asked for the number of all rows and a summary of them.
-/

namespace QueryLoom

/-- The statements of a page. -/
structure PagePlan where
  records : Statement
  count? : Option Statement
  sum? : Option Statement

namespace Registry

/-! ### Text -/

/-- Expand a markup tree for a request. Fragments are looked up in the namespaces of the
candidates. -/
def loadTree (r : Registry) (candidates : List String) (request : Request) (d : Dialect)
    (nodes : List Markup.Node) : LoggedResult String := do
  let setting : Markup.Setting Expansion :=
    ⟨candidates.map namespaceOf, r.fragment?, d, r.store.renderText⟩
  let (text, x) ← ExceptT.mk <|
    Markup.render setting nodes request.view (.ofRequest request d r.enums)
  return Template.appendOrder text x

/-- The SQL text for a request, with its markers. -/
def load (r : Registry) (candidates : List String) (request : Request) (d : Dialect) :
    LoggedResult String := do
  match ← r.resolve candidates with
  | (id, .text _) => r.store.expand r.enums id request d
  | (id, .generator make) =>
    let text : SqlResult String :=
      (r.store.expandText r.enums (make request) request d).mapError (SqlError.within id)
    text
  | (_, .tree nodes) => r.loadTree candidates request d nodes

/-! ### Statements -/

/-- Compiled SQL as it is logged. -/
def loggedSql (limit : Nat) (sql : String) : String :=
  if sql.utf8ByteSize > limit then Event.clipped limit sql ++ "..." else sql

/-- The statement for a request. -/
def compile (r : Registry) (candidates : List String) (request : Request) (config : Config) :
    LoggedResult Statement := do
  let text ← r.load candidates request config.dialect
  let bound ← Binding.bind text request.params config.dialect
  let sql := formatSql bound.sql config.dialect config.format
  let template := candidates.head?.getD ""
  match checkBalanced sql config.dialect with
  | .ok _ => pure ()
  | .error e => Logged.record (.unbalanced template e)
  Logged.record (.compiled template request.kind.name bound.params.length
    (loggedSql config.logSqlMaxLen sql))
  return ⟨sql, bound.params⟩

/-! ### Pages -/

/-- The statement for all rows of a page's query; `own` says that its templates are marked by
`mark` at the end of their ids. -/
def compileAggregate (r : Registry) (candidates : List String) (mark : String) (own : Bool)
    (request : Request) (config : Config) : LoggedResult Statement :=
  r.compile (if own then candidates.map (· ++ mark) else candidates) request config

/-- The statements of a page. -/
def compilePage (r : Registry) (candidates : List String) (page : PageRequest) (request : Request)
    (config : Config) : LoggedResult PagePlan := do
  let request := request.paged page
  let aggregate (kind : QueryKind) (wanted : Bool) (mark : String) (own : Bool) :
      LoggedResult (Option Statement) :=
    if wanted then
      some <$> r.compileAggregate candidates mark own { request with kind := kind } config
    else pure none
  let rows ← r.compile candidates { request with kind := .normal } config
  let limit := if page.limitsItself || page.size = 0 then ""
    else " " ++ config.dialect.limitClause page.offset page.size.toNat
  let count? ← aggregate .count (page.size > 0) "_count" page.hasCountTemplate
  let sum? ← aggregate .sum page.wantsSum "_sum" page.hasSumTemplate
  return ⟨{ rows with sql := rows.sql ++ limit }, count?, sum?⟩

end Registry

end QueryLoom

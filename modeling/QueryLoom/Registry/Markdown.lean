import QueryLoom.Text.Trim

/-!
# Query documents

A document holds queries under headings. A heading is a line above a line that starts with `===`;
what follows are blank lines, comments and fences, and then the text of the query up to the next
heading. Lines that are fences of code blocks belong to no query.
-/

namespace QueryLoom.Registry

/-- A line of a document. -/
abbrev Line := List Char

/-! ### Lines -/

/-- A line that makes the line above it a heading. -/
def isUnderline (line : Line) : Bool :=
  "===".toList.isPrefixOf line

/-- A line that opens or closes a code block. -/
def isFence (line : Line) : Bool :=
  let body := Text.trim line
  ['\x60', '\x60', '\x60'].isPrefixOf body || "~~~".toList.isPrefixOf body

/-- A line that may stand between a heading and its query. -/
def isFiller (line : Line) : Bool :=
  let body := Text.trim line
  body.isEmpty || body.head? == some '*' || isFence line

/-- The lines of a text; carriage returns do not count. -/
def linesOf (text : String) : List Line :=
  (text.toList.filter (· != '\r')).splitOn '\n'

/-! ### Queries -/

/-- The text of a query. -/
def queryText (lines : List Line) : String :=
  String.ofList (Text.trimEnd (['\n'].intercalate (lines.filter (!isFence ·))))

/-- A query under a heading; a blank heading has none. -/
def query (heading : Line) (lines : List Line) : List (String × String) :=
  let id := Text.trim heading
  if id.isEmpty then [] else [(String.ofList id, queryText lines)]

/-- What is left after some lines and one more were dropped is shorter. -/
theorem length_lt_of_dropWhile {p q : Line → Bool} {lines rest : List Line} {next : Line}
    (h : (lines.dropWhile p).dropWhile q = next :: rest) : rest.length < lines.length := by
  have hp := (List.dropWhile_sublist p (l := lines)).length_le
  have hq := (List.dropWhile_sublist q (l := lines.dropWhile p)).length_le
  rw [h, List.length_cons] at hq
  omega

/-- The queries of a document from an underline on, which stands under `heading`. -/
def queriesFrom (heading underline : Line) (lines : List Line) : List (String × String) :=
  let body := lines.dropWhile isFiller
  if body.isEmpty then []
  else
    let content := body.takeWhile (!isUnderline ·)
    match h : body.dropWhile (!isUnderline ·) with
    | [] => query heading content
    | next :: rest =>
      have : rest.length < lines.length := length_lt_of_dropWhile h
      let above := underline :: lines.takeWhile isFiller ++ content
      query heading content.dropLast ++ queriesFrom (above.getLast?.getD []) next rest
termination_by lines.length

/-- The queries of a document, each with its id. -/
def queriesOf (text : String) : List (String × String) :=
  let lines := linesOf text
  match lines.dropWhile (!isUnderline ·) with
  | [] => []
  | underline :: rest =>
    queriesFrom ((lines.takeWhile (!isUnderline ·)).getLast?.getD []) underline rest

end QueryLoom.Registry

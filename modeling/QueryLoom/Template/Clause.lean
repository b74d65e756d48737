import QueryLoom.Dialect
import QueryLoom.KeyMap
import QueryLoom.Text.Trim

/-!
# Rewriting clauses

Functions from the text of a rendered block to the clause it stands for: a `WHERE` without a
dangling connective, columns with aliases, `BETWEEN` with quoted bounds, and the like.
-/

namespace QueryLoom.Clause

/-! ### Connectives -/

/-- The words that join conditions. -/
def connectives : List (List Char) := ["and".toList, "or".toList]

/-- What follows a connective at the start of a text, if `ends` accepts what follows it. -/
def afterConnective? (ends : List Char → Bool) (cs : List Char) : Option (List Char) :=
  connectives.findSome? fun word =>
    (Text.stripLeadIgnoringCase? word cs).filter ends

/-- Whether a word is over: the next character is no part of it. -/
def wordEnds : List Char → Bool
  | [] => true
  | c :: _ => !Text.isWordChar c

/-- Whether a blank follows. -/
def blankFollows : List Char → Bool
  | [] => false
  | c :: _ => Text.isBlank c

/-- A `WHERE` clause for conditions, without a connective in front of them. There is no clause for
no conditions. -/
def whereWrap (cs : List Char) : List Char :=
  let body := Text.trim cs
  if body.isEmpty then []
  else
    " WHERE ".toList ++ Text.trim ((afterConnective? wordEnds body).getD body) ++ [' ']

/-- The text without one connective in front and one comma or semicolon at the end. -/
def trimEdges (cs : List Char) : List Char :=
  let body := Text.trim cs
  let body := Text.trim ((afterConnective? blankFollows body).getD body)
  match body.getLast? with
  | some c => if c == ',' || c == ';' then body.dropLast else body
  | none => body

/-! ### Aliases -/

/-- Drop the first qualifier: ASCII letters and digits before a dot. `run` holds the letters and
digits read last, in reverse. -/
def dropQualifier (run : List Char) : List Char → List Char
  | [] => run.reverse
  | c :: cs =>
    if Text.isAsciiAlphanumeric c then dropQualifier (c :: run) cs
    else if c == '.' && !run.isEmpty then cs
    else run.reverse ++ c :: dropQualifier [] cs

/-- Join words at underscores: an underscore goes, and the small ASCII letter after it becomes a
capital. -/
def joinHumps : List Char → List Char
  | [] => []
  | [c] => [c]
  | c :: d :: cs =>
    if c == '_' && 'a' ≤ d && d ≤ 'z' then d.toUpper :: joinHumps cs
    else c :: joinHumps (d :: cs)

/-- The alias of a column: its name without qualifier, in camel spelling. -/
def humpAlias (column : List Char) : List Char :=
  joinHumps (dropQualifier [] column)

/-- A column with its alias; what already has one, or is empty, stays. -/
def humpItem (item : List Char) : List Char :=
  if item.isEmpty || item.any Text.isBlank then item else item ++ ' ' :: humpAlias item

/-- A list of columns, each with an alias. -/
def hump (cs : List Char) : List Char :=
  let items := ((Text.trim cs).splitOn ',').map fun item => humpItem (Text.trim item)
  ' ' :: ", ".toList.intercalate items ++ [' ']

/-! ### Lists of clauses -/

/-- An `ORDER BY` clause: the requested order first, then that of the block. -/
def orderBy (requested? : Option String) (cs : List Char) : List Char :=
  let block := Text.trim cs
  let parts := (requested?.map String.toList).toList ++ (if block.isEmpty then [] else [block])
  if parts.isEmpty then [] else " ORDER BY ".toList ++ ", ".toList.intercalate parts ++ [' ']

/-- A `GROUP BY` clause. -/
def groupBy (cs : List Char) : List Char :=
  let block := Text.trim cs
  if block.isEmpty then [] else " GROUP BY ".toList ++ block ++ [' ']

/-! ### Ranges -/

/-- The text before the first opening parenthesis, between it and the last closing one, and after
that; there is something between them. -/
def cutParens? (cs : List Char) : Option (List Char × List Char × List Char) := do
  let (before, rest) ← Text.cutAt? ['('] cs
  let (after, inside) ← Text.cutAt? [')'] rest.reverse
  if inside.isEmpty then none else some (before, inside.reverse, after.reverse)

/-- The text without square brackets around the whole of it. -/
def unbracketed (cs : List Char) : List Char :=
  match cs with
  | '[' :: rest => if rest.getLast? == some ']' then rest.dropLast else cs
  | _ => cs

/-- The trimmed pieces between commas: the first, and the second if there is one. -/
def firstTwo (cs : List Char) : List Char × List Char :=
  match cs.splitOn ',' with
  | a :: b :: _ => (Text.trim a, Text.trim b)
  | [a] => (Text.trim a, [])
  | [] => ([], [])

/-- The text with ` BETWEEN ` in place of its first bar. -/
def replaceBar (cs : List Char) : List Char :=
  match Text.cutAt? ['|'] cs with
  | some (before, after) => before ++ " BETWEEN ".toList ++ after
  | none => cs

/-- A range condition from `column (low, high)`; the bounds become string literals. -/
def between (d : Dialect) (cs : List Char) : List Char :=
  match cutParens? cs with
  | none => []
  | some (before, inside, after) =>
    let (low, high) := firstTwo (unbracketed (Text.trim inside))
    let literal (bound : List Char) : List Char := (d.quoteLiteral (String.ofList bound)).toList
    replaceBar (before ++ " BETWEEN ".toList ++ literal low ++ " AND ".toList ++ literal high ++
      after)

/-! ### Groups in parentheses -/

/-- A part of a text: a group between parentheses with none inside, or anything else. -/
inductive Part where
  | plain (text : List Char)
  | group (inside : List Char)
  deriving DecidableEq

/-- The text of a part. -/
def Part.source : Part → List Char
  | .plain text => text
  | .group inside => '(' :: inside ++ [')']

/-- The text after an opening parenthesis that has not been closed yet, in reverse, if there is
one. -/
def pendingText : Option (List Char) → List Char
  | some inside => '(' :: inside.reverse
  | none => []

/-- Cut a text into parts. -/
def parts (pending : Option (List Char)) : List Char → List Part
  | [] => [.plain (pendingText pending)]
  | c :: cs =>
    if c == '(' then .plain (pendingText pending) :: parts (some []) cs
    else
      match pending with
      | none => .plain [c] :: parts none cs
      | some inside =>
        if c == ')' then
          if inside.isEmpty then .plain ['(', ')'] :: parts none cs
          else .group inside.reverse :: parts none cs
        else parts (some (c :: inside)) cs

/-- The parts of a text make it up. -/
theorem flatMap_source_parts (pending : Option (List Char)) (cs : List Char) :
    (parts pending cs).flatMap Part.source = pendingText pending ++ cs := by
  fun_induction parts pending cs <;> simp_all [Part.source, pendingText]

/-- Whether a part is a group. -/
def Part.isGroup : Part → Bool
  | .plain _ => false
  | .group _ => true

/-! ### Distances -/

/-- The length of a degree on the equator, in meters. -/
def degreeMeters : Nat := 111195

/-- The text of a point that a distance begins or ends with. -/
def point (isFirst : Bool) (inside : List Char) : List Char :=
  let (x, y) := firstTwo inside
  let position := x ++ ", ".toList ++ y
  if isFirst then " ROUND(ST_DISTANCE(POINT(".toList ++ position ++ [')']
  else " POINT(".toList ++ position ++ (s!"))*{degreeMeters}, 2)").toList

/-- Write the groups of a text as points. -/
def writePoints (isFirst : Bool) : List Part → List Char
  | [] => []
  | .plain text :: rest => text ++ writePoints isFirst rest
  | .group inside :: rest => point isFirst inside ++ writePoints false rest

/-- The distance between two points in meters, from `(x, y), (x, y)`. -/
def distance (cs : List Char) : List Char :=
  let ps := parts none cs
  if ps.any Part.isGroup then writePoints true ps else []

/-! ### Labels of codes -/

/-- The labels of codes, by the name of their enumeration. -/
abbrev EnumTable := KeyMap (List (String × String))

/-- A character of the name of an enumeration. -/
def isEnumChar (c : Char) : Bool :=
  Text.isAsciiLetter c || c == '_'

/-- The first `NAME(column)` of a text: the name and what stands in the parentheses. `run` holds
the letters of a name read last, in reverse. -/
def call? (run : List Char) : List Char → Option (List Char × List Char)
  | [] => none
  | c :: cs =>
    if isEnumChar c then call? (c :: run) cs
    else if c == '(' && !run.isEmpty then
      let inside := cs.takeWhile fun c => c != '(' && c != ')'
      if !inside.isEmpty && (cs.drop inside.length).head? == some ')' then
        some (run.reverse, inside)
      else call? [] cs
    else call? [] cs

/-- One arm of a case expression. -/
def enumArm (d : Dialect) (column : String) (entry : String × String) : String :=
  "WHEN " ++ column ++ " = " ++ d.quoteLiteral entry.1 ++ " THEN " ++ d.quoteLiteral entry.2

/-- A case expression for the labels of a code column, from `NAME(column)`. -/
def enumCase (enums : EnumTable) (d : Dialect) (cs : List Char) : List Char :=
  match call? [] cs with
  | none => "''".toList
  | some (name, inside) =>
    match KeyMap.get? (String.ofList name) enums with
    | some (entry :: entries) =>
      let column := String.ofList (Text.trim inside)
      (" CASE " ++ " ".intercalate ((entry :: entries).map (enumArm d column)) ++ " END ").toList
    | _ => "''".toList

end QueryLoom.Clause

import QueryLoom.Path
import QueryLoom.Statement

/-!
# Named markers

A marker is a colon followed by a name. Markers become placeholders for the values their names
have in a bag. Nothing is a marker inside quotes or comments, nor after a doubled colon.

Text is cut into regions that concatenate to it; only markers are changed.
-/

namespace QueryLoom.Binding

/-! ### Regions -/

/-- A part of SQL text: a marker, or text that is copied as it is. -/
inductive Region where
  | verbatim (text : List Char)
  | marker (name : List Char)
  deriving DecidableEq, Repr

/-- The text a region was read from. -/
def Region.source : Region → List Char
  | .verbatim text => text
  | .marker name => ':' :: name

/-- A character that may begin the name of a marker. -/
def startsName (c : Char) : Bool := Text.isLetter c || c == '_'

/-- A character that may continue the name of a marker. -/
def isNameChar (c : Char) : Bool := Text.isAlphanumeric c || c == '_' || c == '.'

/-- Whether a backslash takes the next character with it inside these quotes. -/
def hasEscapes (d : Dialect) (quote : Char) : Bool := quote == '\'' && d == .mysql

/-- Quoted text after its opening quote, up to the closing one or the end, and what follows. -/
def takeQuoted (escapes : Bool) (quote : Char) : List Char → List Char × List Char
  | [] => ([], [])
  | [c] => ([c], [])
  | c :: e :: rest =>
    if escapes && c == '\\' then
      let (text, rest) := takeQuoted escapes quote rest
      (c :: e :: text, rest)
    else if c == quote then
      if e == quote then
        let (text, rest) := takeQuoted escapes quote rest
        (c :: e :: text, rest)
      else ([c], e :: rest)
    else
      let (text, rest) := takeQuoted escapes quote (e :: rest)
      (c :: text, rest)

/-- A block comment after its opening, up to its end or that of the text, and what follows. -/
def takeComment : List Char → List Char × List Char
  | [] => ([], [])
  | [c] => ([c], [])
  | c :: e :: rest =>
    if c == '*' && e == '/' then (['*', '/'], rest)
    else
      let (text, rest) := takeComment (e :: rest)
      (c :: text, rest)

/-- The rest of a line, without its end, and what follows. -/
def takeLine (cs : List Char) : List Char × List Char :=
  (cs.takeWhile (· ≠ '\n'), cs.dropWhile (· ≠ '\n'))

/-- The name at the start of a text, without dots at its end, and what follows. -/
def takeName (cs : List Char) : List Char × List Char :=
  let run := cs.takeWhile isNameChar
  let name := Text.dropEndWhile (· == '.') run
  (name, cs.drop name.length)

/-- The region that begins with the character `c`, and what follows it. -/
def region (d : Dialect) (c : Char) (cs : List Char) : Region × List Char :=
  match c, cs with
  | '-', '-' :: rest =>
    let (text, rest) := takeLine rest
    (.verbatim ('-' :: '-' :: text), rest)
  | '/', '*' :: rest =>
    let (text, rest) := takeComment rest
    (.verbatim ('/' :: '*' :: text), rest)
  | ':', ':' :: rest => (.verbatim [':', ':'], rest)
  | ':', n :: rest =>
    if startsName n then
      let (name, rest) := takeName (n :: rest)
      (.marker name, rest)
    else (.verbatim [':'], n :: rest)
  | c, cs =>
    if c == '\'' || c == '"' || c == '\x60' then
      let (text, rest) := takeQuoted (hasEscapes d c) c cs
      (.verbatim (c :: text), rest)
    else if c == '#' && d == .mysql then
      let (text, rest) := takeLine cs
      (.verbatim (c :: text), rest)
    else (.verbatim [c], cs)

/-! ### Nothing is lost -/

theorem append_takeQuoted (escapes : Bool) (quote : Char) (cs : List Char) :
    (takeQuoted escapes quote cs).1 ++ (takeQuoted escapes quote cs).2 = cs := by
  fun_induction takeQuoted escapes quote cs <;> simp_all

theorem append_takeComment (cs : List Char) : (takeComment cs).1 ++ (takeComment cs).2 = cs := by
  fun_induction takeComment cs <;> simp_all

theorem append_takeLine (cs : List Char) : (takeLine cs).1 ++ (takeLine cs).2 = cs := by
  simp [takeLine, List.takeWhile_append_dropWhile]

theorem dropEndWhile_append (p : Char → Bool) (cs : List Char) :
    ∃ tail, Text.dropEndWhile p cs ++ tail = cs := by
  refine ⟨(cs.reverse.takeWhile p).reverse, ?_⟩
  rw [Text.dropEndWhile, ← List.reverse_append, List.takeWhile_append_dropWhile,
    List.reverse_reverse]

theorem append_takeName (cs : List Char) : (takeName cs).1 ++ (takeName cs).2 = cs := by
  obtain ⟨tail, h⟩ := dropEndWhile_append (· == '.') (cs.takeWhile isNameChar)
  have hp : Text.dropEndWhile (· == '.') (cs.takeWhile isNameChar) <+: cs :=
    ⟨tail ++ cs.dropWhile isNameChar, by
      rw [← List.append_assoc, h, List.takeWhile_append_dropWhile]⟩
  exact (List.prefix_iff_eq_append.mp hp)

/-- A region and what follows it make up the text. -/
theorem source_append_region (d : Dialect) (c : Char) (cs : List Char) :
    (region d c cs).1.source ++ (region d c cs).2 = c :: cs := by
  unfold region
  split
  · simp [Region.source, append_takeLine]
  · simp [Region.source, append_takeComment]
  · simp [Region.source]
  · split
    · simp [Region.source, append_takeName]
    · simp [Region.source]
  · split
    · simp [Region.source, append_takeQuoted]
    · split
      · simp [Region.source, append_takeLine]
      · simp [Region.source]

theorem source_ne_nil (d : Dialect) (c : Char) (cs : List Char) :
    (region d c cs).1.source ≠ [] := by
  unfold region
  split <;> (try split) <;> (try split) <;> simp [Region.source]

theorem length_region (d : Dialect) (c : Char) (cs : List Char) :
    (region d c cs).2.length < (c :: cs).length := by
  have h := congrArg List.length (source_append_region d c cs)
  have hne := List.length_pos_iff.mpr (source_ne_nil d c cs)
  rw [List.length_append] at h
  omega

/-! ### The scan -/

/-- The regions of a text. -/
def regions (d : Dialect) : List Char → List Region
  | [] => []
  | c :: cs => (region d c cs).1 :: regions d (region d c cs).2
termination_by cs => cs.length
decreasing_by exact length_region d c cs

/-- The regions of a text make it up. -/
theorem flatMap_source_regions (d : Dialect) (cs : List Char) :
    (regions d cs).flatMap Region.source = cs := by
  fun_induction regions d cs with
  | case1 => rfl
  | case2 c cs ih => rw [List.flatMap_cons, ih, source_append_region]

/-! ### Binding -/

/-- The value of a marker's name. -/
def valueOf? (bag : Json) (name : List Char) : Option Json :=
  bag.resolve? (String.ofList name)

/-- Append the placeholders for a value; an array has one for each item. -/
def pushValue (q : Sql) : Json → Sql
  | .array items => q.pushBindList items
  | value => q.pushBind value

/-- Append a region; a marker without a value adds nothing. -/
def pushRegion (bag : Json) (q : Sql) : Region → Sql
  | .verbatim text => q.push (String.ofList text)
  | .marker name =>
    match valueOf? bag name with
    | some value => pushValue q value
    | none => q

/-- The markers without a value, as they are written. -/
def missing (bag : Json) (rs : List Region) : List String :=
  rs.filterMap fun
    | .verbatim _ => none
    | .marker name =>
      match valueOf? bag name with
      | some _ => none
      | none => some (String.ofList (':' :: name))

/-- Replace the markers of a text by placeholders; a marker without a value is refused. The
dialect only decides what is quoted. -/
def bindSql (sql : String) (bag : Json) (d : Dialect) : SqlResult Sql :=
  let rs := regions d sql.toList
  let unresolved := missing bag rs
  if unresolved.isEmpty then .ok (rs.foldl (pushRegion bag) .empty)
  else .error (.unconvertedParameter unresolved)

/-- The statement of a text with markers. -/
def bind (sql : String) (bag : Json) (d : Dialect) : SqlResult Statement :=
  (bindSql sql bag d).map (·.build d)

end QueryLoom.Binding

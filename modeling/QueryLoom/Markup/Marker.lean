import QueryLoom.Json.Printer
import QueryLoom.Scope
import QueryLoom.Dialect
import QueryLoom.Error

/-!
# Markers in markup text

A marker is `#` or `$` and a path between braces. It becomes the value the path leads to: a string
literal for `#`, the bare text for `$`. Text is read once from left to right, so a value that looks
like a marker stays as it is.
-/

namespace QueryLoom.Markup

/-- A part of a text: a marker, or a character of its own. -/
inductive Segment where
  | plain (c : Char)
  | marker (sigil : Char) (inside : List Char)
  deriving DecidableEq

namespace Segment

/-- The text a segment was read from. -/
def source : Segment → List Char
  | .plain c => [c]
  | .marker sigil inside => sigil :: '{' :: inside ++ ['}']

/-! ### Reading -/

theorem eq_of_cutAt?_single {c : Char} {cs before after : List Char}
    (h : Text.cutAt? [c] cs = some (before, after)) : cs = before ++ c :: after := by
  induction cs generalizing before after with
  | nil => simp [Text.cutAt?] at h
  | cons d cs ih =>
    simp only [Text.cutAt?, Text.stripLead?] at h
    split at h
    · next rest hr =>
      split at hr
      · simp_all
      · simp at hr
    · simp only [Option.map_eq_some_iff, Prod.exists, Prod.mk.injEq] at h
      obtain ⟨b, a, hcut, rfl, rfl⟩ := h
      simp [ih hcut]

/-- The marker at the start of a text, and what follows it. -/
def marker? : List Char → Option (Segment × List Char)
  | c :: '{' :: cs =>
    if c == '#' || c == '$' then
      (Text.cutAt? ['}'] cs).map fun (inside, rest) => (.marker c inside, rest)
    else none
  | _ => none

theorem source_append_marker? {cs rest : List Char} {s : Segment}
    (h : marker? cs = some (s, rest)) : s.source ++ rest = cs := by
  unfold marker? at h
  split at h
  · split at h
    · simp only [Option.map_eq_some_iff, Prod.exists, Prod.mk.injEq] at h
      obtain ⟨inside, after, hcut, rfl, rfl⟩ := h
      simp [source, eq_of_cutAt?_single hcut]
    · simp at h
  · simp at h

theorem length_marker? {cs rest : List Char} {s : Segment} (h : marker? cs = some (s, rest)) :
    rest.length < cs.length := by
  have hlen := congrArg List.length (source_append_marker? h)
  have : 0 < s.source.length := by cases s <;> simp [source]
  rw [List.length_append] at hlen
  omega

/-- The segments of a text. -/
def all : List Char → List Segment
  | [] => []
  | c :: cs =>
    match h : marker? (c :: cs) with
    | some (s, rest) =>
      have : rest.length < (c :: cs).length := length_marker? h
      s :: all rest
    | none => .plain c :: all cs
termination_by cs => cs.length
decreasing_by
  · exact this
  · exact Nat.lt_succ_self _

/-- The segments of a text make it up. -/
theorem flatMap_source_all (cs : List Char) : (all cs).flatMap source = cs := by
  fun_induction all cs with
  | case1 => rfl
  | case2 c cs s rest h _ ih => rw [List.flatMap_cons, ih, source_append_marker? h]
  | case3 c cs h ih => simp [source, ih]

/-! ### Values -/

/-- The path of a marker: what stands before the first comma. -/
def path (inside : List Char) : List Char :=
  Text.trim (inside.takeWhile (· != ','))

/-- The bare text of a value. -/
def bareText : Json → String
  | .string s => s
  | value => value.compact

/-- The text that a marker becomes. -/
def valueText (d : Dialect) (sigil : Char) (value : Json) : String :=
  match value with
  | .null => "NULL"
  | value => if sigil == '#' then d.quoteLiteral (bareText value) else bareText value

/-- The value of a marker, if its path leads anywhere. -/
def value? (scope : Scope) (inside : List Char) : Option Json :=
  if (path inside).isEmpty then none else scope.resolve? (String.ofList (path inside))

/-- The text of a segment; a marker without a value has none. -/
def write (scope : Scope) (d : Dialect) : Segment → String
  | .plain c => String.singleton c
  | .marker sigil inside =>
    match value? scope inside with
    | some value => valueText d sigil value
    | none => ""

/-- The marker as it is written, if it has no value. -/
def unresolved? (scope : Scope) : Segment → Option String
  | .plain _ => none
  | .marker sigil inside =>
    match value? scope inside with
    | some _ => none
    | none => some (String.ofList (source (.marker sigil inside)))

/-- Of equal texts in a row keep one. -/
def dropRepeats : List String → List String
  | [] => []
  | [s] => [s]
  | s :: t :: rest => if s = t then dropRepeats (t :: rest) else s :: dropRepeats (t :: rest)

end Segment

/-- Replace the markers of a text by their values; a marker without a value is refused. -/
def substitute (scope : Scope) (d : Dialect) (text : String) : SqlResult String :=
  let segments := Segment.all text.toList
  let unresolved := segments.filterMap (Segment.unresolved? scope)
  if unresolved.isEmpty then .ok (String.join (segments.map (Segment.write scope d)))
  else .error (.unconvertedParameter (Segment.dropRepeats unresolved))

end QueryLoom.Markup

import QueryLoom.Config
import QueryLoom.Entity.Basic
import QueryLoom.Text.Shown

/-!
# Records and targets

A record maps names of fields to values. Which fields take part in a statement, and with which
values, is decided record by record; the rows a statement addresses are given by their keys, by
records of values to match, or by a predicate in SQL.
-/

namespace QueryLoom

/-- The values of one row by field name. -/
abbrev Record := KeyMap Json

/-- The rows a delete or a select addresses. -/
inductive Target where
  | ids (ids : List Json)
  | records (records : List Record)
  | raw (sql : String) (params : Json)

/-- A value that a column must have. -/
structure Match where
  field : Field
  value : Json

namespace Batch

/-! ### Participation -/

/-- Whether a value is a text of blanks only. -/
def isBlankValue : Json → Bool
  | .string s => Text.isBlankText s
  | _ => false

/-- Whether a value is there at all: neither absent nor null nor blank. -/
def isGiven : Option Json → Bool
  | none => false
  | some value => !value.isNull && !isBlankValue value

/-- The value a field takes part with in a statement other than an insert. -/
def changedValue? (policy : SkipPolicy) (record : Record) (f : Field) : Option Json :=
  match record.get? f.name with
  | none => if policy.skipUndefined then none else some .null
  | some value =>
    if value.isNull then if policy.skipNull then none else some .null
    else if isBlankValue value then if policy.skipEmptyString then none else some (.string "")
    else some value

/-- The value a field takes part with in an insert. A field with a generator always takes part,
with null where the value is to be generated; an empty value that is not left out gives way to the
declared default. -/
def insertedValue? (policy : SkipPolicy) (record : Record) (f : Field) : Option Json :=
  let value? := record.get? f.name
  if f.generator?.isSome then some (if isGiven value? then value?.getD .null else .null)
  else if isGiven value? then value?
  else (changedValue? policy record f).map f.default?.getD

/-! ### Addressed rows -/

/-- The records to match, one for each addressed row. -/
def targetRecords (e : Entity) : Target → SqlResult (List Record)
  | .ids ids =>
    match e.primaryKeys with
    | [key] => .ok (ids.map fun id => [(key.name, id)])
    | _ => .error (.batch (.noSingleKey e.name))
  | .records records => .ok records
  | .raw _ _ => .error (.batch .rawWithoutRecords)

/-- The first name of a record that is no field of the entity. -/
def unknownName? (e : Entity) (record : Record) : Option String :=
  record.keys.find? fun k => (e.field? k).isNone

/-- The fields a record has values for, in declaration order. -/
def recordFields (e : Entity) (record : Record) : List Field :=
  e.fields.filter fun f => record.has f.name

/-- The fields a predicate record constrains; an unknown name or an empty record is refused. -/
def predicateFields (e : Entity) (record : Record) : SqlResult (List Field) :=
  match unknownName? e record with
  | some name => .error (.batch (.unknownField name e.name))
  | none =>
    let fields := recordFields e record
    if fields.isEmpty then .error (.batch .emptyRecord) else .ok fields

/-- The values of a record for some of its fields. -/
def matchesOf (fields : List Field) (record : Record) : List Match :=
  fields.map fun f => ⟨f, (record.get? f.name).getD .null⟩

/-! ### Chunks -/

/-- Cut a list into pieces of `size` items, the last of which may be shorter. -/
def chunks {α : Type} (size : Nat) : List α → List (List α)
  | [] => []
  | x :: xs => (x :: xs.take (size - 1)) :: chunks size (xs.drop (size - 1))
termination_by xs => xs.length
decreasing_by rw [List.length_drop, List.length_cons]; omega

@[simp] theorem chunks_nil {α : Type} (size : Nat) : chunks size ([] : List α) = [] := by
  simp [chunks]

/-- Nothing is lost, added or moved by cutting. -/
@[simp] theorem flatten_chunks {α : Type} (size : Nat) (xs : List α) :
    (chunks size xs).flatten = xs := by
  fun_induction chunks size xs <;> simp_all [List.take_append_drop]

end Batch

end QueryLoom

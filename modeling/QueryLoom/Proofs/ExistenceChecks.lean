import QueryLoom.Proofs.InsertedRows

/-!
# Existence checks

An insert of absent rows selects the values of each record unless the table has a row with the same
values in some fields. What is compared there is what the selection writes for the field, except
where the engine generates that or where it is a null by default.
-/

namespace QueryLoom

open Dml

/-- The selections of a statement, each with the columns that its row is inserted into. -/
def Dml.Command.selections : Command → List (List IdentPart × Branch)
  | .insertSelected _ columns branches => branches.map fun b => (columns, b)
  | _ => []

namespace Batch

variable {d : Dialect} {e : Entity} {policy : SkipPolicy} {r : Record} {f : Field}
  {records : List Record} {checked : List Field}

/-! ### Compared values -/

/-- The value that an existence check compares a field with, if there is one. -/
def comparedValue? (policy : SkipPolicy) (r : Record) (f : Field) : Option Json :=
  ((insertedValue? policy r f).filter fun v => !v.isNull).or f.default?

/-- The value that an existence check compares a field with. -/
def comparedValue (policy : SkipPolicy) (r : Record) (f : Field) : Json :=
  (comparedValue? policy r f).getD .null

/-- The values that a record is looked up by. -/
def existenceGroup (policy : SkipPolicy) (checked : List Field) (r : Record) : List Match :=
  checked.map fun f => ⟨f, comparedValue policy r f⟩

/-- A record has a value for a field, or is sure to get one that is not null. -/
def HasKnownValue (r : Record) (f : Field) : Prop :=
  isGiven (r.get? f.name) = true ∨ (f.generator? = none ∧ f.default? ≠ some .null)

lemma existenceMatch_eq (e : Entity) (policy : SkipPolicy) (r : Record) (f : Field) :
    existenceMatch e policy r f = match comparedValue? policy r f with
      | some value => .ok ⟨f, value⟩
      | none => .error (.batch (.noExistenceValue e.name f.name)) := rfl

lemma existenceMatch_eq_ok {m : Match} : existenceMatch e policy r f = .ok m ↔
    (comparedValue? policy r f).isSome = true ∧ m = ⟨f, comparedValue policy r f⟩ := by
  rw [existenceMatch_eq, comparedValue]
  cases comparedValue? policy r f with
  | none => simp
  | some value => simpa using eq_comm

lemma insertedValue?_of_given (h : isGiven (r.get? f.name) = true) :
    insertedValue? policy r f = r.get? f.name := by
  cases hvalue : r.get? f.name with
  | none => simp [hvalue, isGiven] at h
  | some v =>
    rw [hvalue] at h
    unfold insertedValue?
    split_ifs <;> simp [hvalue, h] at *

lemma comparedValue?_of_given (h : isGiven (r.get? f.name) = true) :
    comparedValue? policy r f = r.get? f.name := by
  have hnull := isNull_of_isGiven h
  rw [comparedValue?, insertedValue?_of_given h]
  cases hvalue : r.get? f.name with
  | none => simp [hvalue, isGiven] at h
  | some v =>
    rw [hvalue, Option.getD_some] at hnull
    simp [Option.filter, hnull]

/-- Where a value is left open and none is generated, the declared default takes its place. -/
lemma insertedValue?_of_open (hopen : isGiven (r.get? f.name) = false)
    (hgenerator : f.generator? = none) :
    insertedValue? policy r f = (changedValue? policy r f).map f.default?.getD := by
  simp [insertedValue?, hgenerator, hopen]

/-- A check compares with the value of the row, and not with null, exactly if the value is known. -/
lemma comparesOwn_iff (hsome : (comparedValue? policy r f).isSome = true) :
    ((comparedValue policy r f).isNull = false ∧
      recordCell policy r f = .value (comparedValue policy r f)) ↔ HasKnownValue r f := by
  unfold HasKnownValue
  cases hgiven : isGiven (r.get? f.name) with
  | true =>
    refine iff_of_true ⟨?_, ?_⟩ (.inl rfl)
    · rw [comparedValue, comparedValue?_of_given hgiven]
      exact isNull_of_isGiven hgiven
    · unfold recordCell
      rw [hgiven, comparedValue, comparedValue?_of_given hgiven, insertedValue?_of_given hgiven]
      cases hvalue : r.get? f.name with
      | none => simp [hvalue, isGiven] at hgiven
      | some v => cases f.generator? <;> rfl
  | false =>
    cases hgenerator : f.generator? with
    | some g => simp [recordCell, hgenerator, hgiven]
    | none =>
      have hopen := @insertedValue?_of_open policy r f hgiven hgenerator
      rw [comparedValue?, hopen] at hsome
      simp only [recordCell, comparedValue, comparedValue?, hgenerator, hopen]
      cases hdefault : f.default? with
      | none =>
        cases hchanged : changedValue? policy r f with
        | none => simp [hdefault, hchanged] at hsome
        | some v =>
          cases hnull : v.isNull <;> simp [hdefault, hchanged, hnull, Option.filter] at hsome ⊢
      | some v =>
        -- the default is compared and written, whether or not the field takes part
        cases changedValue? policy r f <;> cases v <;> simp [Json.isNull, Option.filter]

/-! ### Statements -/

/-- The step that inserts the absent rows of a chunk. -/
def absentStep (e : Entity) (policy : SkipPolicy) (checked : List Field) (records : List Record) :
    Step :=
  .insertAbsent e (insertedFields e policy records) (records.map fun r =>
    (insertedRow policy (insertedFields e policy records) r, existenceGroup policy checked r))

/-- What this step is read as. -/
def absentCommand (d : Dialect) (e : Entity) (policy : SkipPolicy) (checked : List Field)
    (records : List Record) : Command :=
  .insertSelected e.table.parts ((insertedFields e policy records).map (·.part))
    (records.map fun r => absentBranch d e
      (insertedRow policy (insertedFields e policy records) r) (existenceGroup policy checked r))

/-- Every checked field of a record has a value to compare with. -/
def HasComparedValues (policy : SkipPolicy) (checked : List Field) (r : Record) : Prop :=
  ∀ f ∈ checked, (comparedValue? policy r f).isSome = true

lemma insertChunk_absent {temp : String} {steps : List Step}
    (h : insertChunk e .ifNotExists checked policy temp records = .ok steps) :
    insertedFields e policy records ≠ [] ∧ (∀ r ∈ records, HasComparedValues policy checked r) ∧
      steps = [absentStep e policy checked records] := by
  obtain ⟨hne, checks, hchecks, rfl⟩ := insertChunk_ok h
  have hgroups : records.mapM (fun r => checked.mapM (existenceMatch e policy r)) = .ok checks :=
    SqlResult.mapM_eq_ok.mpr (hchecks rfl)
  obtain ⟨hcompared, rfl⟩ := (SqlResult.mapM_eq_ok_map fun r _ =>
    SqlResult.mapM_eq_ok_map fun f _ => existenceMatch_eq_ok).mp hgroups
  refine ⟨hne, hcompared, ?_⟩
  rw [insertSteps, List.zip_map']
  rfl

lemma insertChunks_absent {suffixes : Suffixes} {index : Nat} {chunks : List (List Record)}
    {steps : List Step}
    (h : insertChunks e .ifNotExists checked policy suffixes index chunks = .ok steps) :
    (∀ chunk ∈ chunks, insertedFields e policy chunk ≠ [] ∧
      ∀ r ∈ chunk, HasComparedValues policy checked r) ∧
      steps = chunks.map (absentStep e policy checked) := by
  induction chunks generalizing index steps with
  | nil =>
    cases h
    simp
  | cons chunk rest ih =>
    rw [insertChunks] at h
    obtain ⟨first, hfirst, h⟩ := SqlResult.bind_eq_ok.mp h
    obtain ⟨others, hothers, h⟩ := SqlResult.bind_eq_ok.mp h
    obtain rfl := SqlResult.pure_eq_ok.mp h
    obtain ⟨hne, hcompared, rfl⟩ := insertChunk_absent hfirst
    obtain ⟨hrest, rfl⟩ := ih hothers
    exact ⟨List.forall_mem_cons.mpr ⟨⟨hne, hcompared⟩, hrest⟩, rfl⟩

/-- The plan of an insert of absent rows has a step for each chunk, with checks on the same
fields. -/
lemma insertPlan_absent {existence? : Option (List String)} {config : Config} {suffixes : Suffixes}
    {steps : List Step}
    (h : insertPlan e records .ifNotExists existence? config suffixes = .ok steps) :
    (records = [] ∧ steps = []) ∨ ∃ checked, existenceFields e existence? = .ok checked ∧
      insertChunks e .ifNotExists checked config.skip suffixes 0 (chunks config.maxDeal records)
        = .ok steps := by
  unfold insertPlan at h
  obtain ⟨_, -, h⟩ := SqlResult.bind_eq_ok.mp h
  split at h
  · next hnone => exact .inl ⟨by simpa using hnone, (SqlResult.pure_eq_ok.mp h).symm⟩
  obtain ⟨checked, hchecked, h⟩ := SqlResult.bind_eq_ok.mp h
  exact .inr ⟨checked, hchecked, h⟩

/-- The statement of a chunk guards the values of each record by its existence values. -/
lemma reads_absentStep (he : Accepted e) (hchecked : checked ≠ [] ∧ ∀ f ∈ checked, f ∈ e.fields)
    (hcolumns : insertedFields e policy records ≠ []) (hne : records ≠ []) :
    Reads d (absentStep e policy checked records) (absentCommand d e policy checked records) := by
  have hfields : ∀ f ∈ insertedFields e policy records, Legible f.part :=
    fun f hf => he.legible.fields f (List.mem_of_mem_filter hf)
  have hread := @readsAs_insertAbsent d e he.legible _ hcolumns hfields
    (records.map fun r => (insertedRow policy (insertedFields e policy records) r,
      existenceGroup policy checked r)) (by simpa using hne) ?_
  · rw [List.map_map] at hread
    exact hread.readWith (by decide)
  · simp only [List.forall_mem_map]
    refine fun r _ => ⟨by simpa [insertedRow] using hcolumns,
      by simpa [existenceGroup] using hchecked.1, ?_⟩
    intro m hm
    obtain ⟨f, hf, rfl⟩ := List.mem_map.mp hm
    exact he.legible.fields f (hchecked.2 f hf)

/-- The statements of an insert of absent rows, one for each chunk. -/
lemma reads_insert_absent (he : Accepted e) {existence? : Option (List String)} {config : Config}
    {suffixes : Suffixes} {statements : List Statement}
    (h : (insert e records .ifNotExists existence? config suffixes).value = .ok statements) :
    ∃ checked, (records ≠ [] → existenceFields e existence? = .ok checked) ∧
      (∀ f ∈ checked, f ∈ e.fields) ∧ (∀ r ∈ records, HasComparedValues config.skip checked r) ∧
      List.Forall₂ (fun s c => readStatement config.dialect s = some c) statements
        ((chunks config.maxDeal records).map
          (absentCommand config.dialect e config.skip checked)) := by
  obtain ⟨steps, hplan, rfl⟩ := insert_ok h
  rcases insertPlan_absent hplan with ⟨rfl, rfl⟩ | ⟨checked, hchecked, hchunks⟩
  · exact ⟨[], by simp, by simp, by simp, by simp⟩
  obtain ⟨hall, rfl⟩ := insertChunks_absent hchunks
  have hfields := existenceFields_ok hchecked
  refine ⟨checked, fun _ => hchecked, hfields.2,
    forall_mem_chunks.mp fun chunk hchunk => (hall chunk hchunk).2, ?_⟩
  rw [List.forall₂_map_left_iff, List.forall₂_map_left_iff, List.forall₂_map_right_iff,
    List.forall₂_same]
  exact fun chunk hchunk =>
    reads_absentStep he hfields (hall chunk hchunk).1 (ne_nil_of_mem_chunks hchunk)

/-! ### The selection of a record -/

/-- A selection that is left out if the table has a row with some values in the checked fields. Such
a value is what the selection writes for the field, and not null, exactly if the record has a known
value for it. -/
structure Guards (d : Dialect) (e : Entity) (checked : List Field) (r : Record)
    (columns : List IdentPart) (b : Branch) (cells : List Cell) (value : Field → Json) : Prop where
  items : b.items = cells.map .cell
  exception : b.unless? =
    some (e.table.parts, checked.map fun f => .equal ⟨[], f.part⟩ (value f))
  own : ∀ f ∈ checked, ((value f).isNull = false ∧
    (⟨columns, cells⟩ : Tuple).cellOf d f = .value (value f)) ↔ HasKnownValue r f

lemma guards_of_mem (he : Accepted e) (hchecked : ∀ f ∈ checked, f ∈ e.fields)
    (hcompared : HasComparedValues policy checked r) (hr : r ∈ records) :
    Guards d e checked r ((insertedFields e policy records).map (·.part))
      (absentBranch d e (insertedRow policy (insertedFields e policy records) r)
        (existenceGroup policy checked r))
      (insertedRow policy (insertedFields e policy records) r) (comparedValue policy r) where
  items := rfl
  exception := by
    rw [absentBranch, existenceGroup, List.map_map]
    rfl
  own f hf := by
    have hwrites := @writes_chunkTuples d e policy records he
    rw [chunkTuples, List.forall₂_map_right_iff, List.forall₂_same] at hwrites
    rw [(hwrites r hr).cells f (hchecked f hf)]
    exact comparesOwn_iff (hcompared f hf)

lemma guards_chunks (he : Accepted e) (hchecked : ∀ f ∈ checked, f ∈ e.fields)
    {chunks : List (List Record)}
    (hcompared : ∀ r ∈ chunks.flatten, HasComparedValues policy checked r) :
    List.Forall₂ (fun r x => ∃ cells value, Guards d e checked r x.1 x.2 cells value) chunks.flatten
      ((chunks.map (absentCommand d e policy checked)).flatMap Command.selections) := by
  induction chunks with
  | nil => exact .nil
  | cons chunk rest ih =>
    rw [List.flatten_cons, List.forall_mem_append] at hcompared
    rw [List.flatten_cons, List.map_cons, List.flatMap_cons]
    refine List.rel_append ?_ (ih hcompared.2)
    rw [absentCommand, Command.selections, List.map_map, List.forall₂_map_right_iff,
      List.forall₂_same]
    exact fun r hr => ⟨_, _, guards_of_mem he hchecked (hcompared.1 r hr) hr⟩

/-- An insert of absent rows selects the values of each record, in order, unless the table has a row
with certain values in the checked fields. For each of these fields, what is compared is not null
and the same as what the selection writes exactly if the record has a known value for it: one that
is given, or else a default that is not null in a field without a generator. -/
theorem checks_own_value_iff {decl : EntityDecl} (hdecl : decl.build = .ok e)
    {existence? : Option (List String)} {config : Config} {suffixes : Suffixes}
    {statements : List Statement} (hne : records ≠ [])
    (h : (insert e records .ifNotExists existence? config suffixes).value = .ok statements) :
    ∃ checked cs, existenceFields e existence? = .ok checked ∧
      List.Forall₂ (fun s c => readStatement config.dialect s = some c) statements cs ∧
      List.Forall₂ (fun r x => ∃ cells value,
        Guards config.dialect e checked r x.1 x.2 cells value)
        records (cs.flatMap Command.selections) := by
  have he := accepted_of_build hdecl
  obtain ⟨checked, hexistence, hchecked, hcompared, hread⟩ := reads_insert_absent he h
  refine ⟨checked, _, hexistence hne, hread, ?_⟩
  have hguards := @guards_chunks config.dialect e config.skip checked he hchecked
    (chunks config.maxDeal records)
  rw [flatten_chunks] at hguards
  exact hguards hcompared

/-- A line whose amount is left to the default. -/
def plainLine : List Record := [[("line", .int 2), ("order_id", .int 7)]]

/-- A line whose amount is left to the default is looked up by this default, though the amount is
not among the columns of the insert. -/
theorem checks_own_value_default_amount :
    orderLineDecl.build = .ok orderLine ∧ plainLine ≠ [] ∧ ∃ statements,
      (insert orderLine plainLine .ifNotExists (some ["order_id", "amount"]) .standard
        fun _ => "0").value = .ok statements ∧
      ∃ (cs : List Command) (columns : List IdentPart) (b : Branch) (cells : List Cell)
        (order amount : Json),
        List.Forall₂ (fun s c => readStatement .mysql s = some c) statements cs ∧
        cs.flatMap Command.selections = [(columns, b)] ∧
        b.unless? = some ([.plain "order_line"], [.equal ⟨[], .plain "order_id"⟩ order,
          .equal ⟨[], .plain "amount"⟩ amount]) ∧
        amount.isNull = false ∧
        (⟨columns, cells⟩ : Tuple).cellOf .mysql orderLine.fields[2] = .value amount := by
  have hchunks : chunks Config.standard.maxDeal plainLine = [plainLine] := by
    simp [chunks, plainLine, Config.standard]
  have hplan : ∃ steps, insertPlan orderLine plainLine .ifNotExists
      (some ["order_id", "amount"]) .standard (fun _ => "0") = .ok steps := by
    unfold insertPlan
    rw [hchunks]
    exact ⟨_, rfl⟩
  obtain ⟨steps, hplan⟩ := hplan
  have hinsert : (insert orderLine plainLine .ifNotExists (some ["order_id", "amount"]) .standard
      fun _ => "0").value = .ok (steps.map (Step.build .mysql)) := by
    rw [insert, hplan]
    rfl
  have hne : plainLine ≠ [] := List.cons_ne_nil _ _
  refine ⟨build_orderLine, hne, _, hinsert, ?_⟩
  obtain ⟨checked, cs, hchecked, hread, hguards⟩ :=
    checks_own_value_iff build_orderLine hne hinsert
  obtain rfl : [orderLine.fields[0], orderLine.fields[2]] = checked := Except.ok.inj hchecked
  obtain ⟨⟨columns, b⟩, rest, ⟨cells, value, hguard⟩, hnil, hselections⟩ :=
    List.forall₂_cons_left_iff.mp hguards
  obtain rfl := List.forall₂_nil_left_iff.mp hnil
  have hknown : HasKnownValue (plainLine.head hne) orderLine.fields[2] :=
    .inr ⟨rfl, by simp [orderLine, orderLineDecl]⟩
  obtain ⟨hnull, hown⟩ := (hguard.own orderLine.fields[2] (by simp)).mpr hknown
  exact ⟨cs, columns, b, cells, _, _, hread, hselections, hguard.exception, hnull, hown⟩

/-- Vouchers: the engine generates ids though they have a default, and a code may be left out. -/
def voucherDecl : EntityDecl where
  table := "voucher"
  name? := none
  fields := [
    { (FieldDecl.ofName "id" .bigInt).asPrimaryKey with
      generator? := some .shortUuid, default? := some (.int 0) },
    { FieldDecl.ofName "code" .text with default? := some .null }]

/-- The entity of vouchers. -/
def voucher : Entity where
  name := "voucher"
  tableText := "voucher"
  table := ⟨[.plain "voucher"]⟩
  fields := voucherDecl.fields.map fun f => { f with part := .plain f.column }

lemma build_voucher : voucherDecl.build = .ok voucher := by
  have htable := @Ident.parse_plain "voucher" (by decide)
  have hid := @Ident.parse_plain "id" (by decide)
  have hcode := @Ident.parse_plain "code" (by decide)
  simp only [EntityDecl.build, voucherDecl, acceptFields, FieldDecl.accept,
    FieldDecl.asPrimaryKey, FieldDecl.ofName, htable, hid, hcode]
  rfl

/-- A voucher without a code is looked up by a code that is null, which no row equals; and one whose
id is left to the engine by the default, which is not what is inserted. -/
theorem checks_other_value :
    voucherDecl.build = .ok voucher ∧
    (∃ s c columns b,
      (insert voucher [[("id", .int 1)]] .ifNotExists (some ["code"]) .standard
        fun _ => "0").value = .ok [s] ∧
      readStatement .mysql s = some c ∧ c.selections = [(columns, b)] ∧
      b.unless? = some ([.plain "voucher"], [.equal ⟨[], .plain "code"⟩ .null])) ∧
    ∃ s c columns b cells,
      (insert voucher [[("code", .string "x")]] .ifNotExists none .standard
        fun _ => "0").value = .ok [s] ∧
      readStatement .mysql s = some c ∧ c.selections = [(columns, b)] ∧
      b.items = cells.map .cell ∧
      b.unless? = some ([.plain "voucher"], [.equal ⟨[], .plain "id"⟩ (.int 0)]) ∧
      (⟨columns, cells⟩ : Tuple).cellOf .mysql voucher.fields[0] = .generated .shortUuid := by
  have he := accepted_of_build build_voucher
  have hread (f : Field) (hf : f ∈ voucher.fields) (r : Record)
      (hcolumns : insertedFields voucher .standard [r] ≠ []) :
      Reads .mysql (absentStep voucher .standard [f] [r])
        (absentCommand .mysql voucher .standard [f] [r]) :=
    reads_absentStep he ⟨List.cons_ne_nil _ _, by simpa using hf⟩ hcolumns (List.cons_ne_nil _ _)
  have hinsert (r : Record) (names? : Option (List String)) (step : Step)
      (hsteps : (do
        let checked ← existenceFields voucher names?
        insertChunks voucher .ifNotExists checked .standard (fun _ => "0") 0 [[r]])
          = .ok [step]) :
      (insert voucher [r] .ifNotExists names? .standard fun _ => "0").value
        = .ok [step.build .mysql] := by
    have hchunks : chunks Config.standard.maxDeal [r] = [[r]] := by simp [chunks, Config.standard]
    have hplan : insertPlan voucher [r] .ifNotExists names? .standard (fun _ => "0")
        = .ok [step] := by
      unfold insertPlan
      rw [hchunks]
      exact hsteps
    rw [insert, hplan]
    rfl
  refine ⟨build_voucher,
    ⟨_, _, _, _, hinsert [("id", .int 1)] (some ["code"]) _ rfl,
      hread voucher.fields[1] (by simp) [("id", .int 1)] ?_, rfl, rfl⟩,
    _, _, _, _, _, hinsert [("code", .string "x")] none _ rfl,
      hread voucher.fields[0] (by simp) [("code", .string "x")] ?_, rfl, rfl, rfl, rfl⟩
  all_goals exact List.cons_ne_nil _ _

end Batch

end QueryLoom

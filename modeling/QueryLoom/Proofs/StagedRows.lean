import QueryLoom.Batch.Staging
import QueryLoom.Proofs.Dml.Inserts
import QueryLoom.Proofs.Dml.Meaning
import QueryLoom.Proofs.Dml.Steps
import QueryLoom.Proofs.Records
import QueryLoom.Proofs.Results

/-!
# Temporary tables

A temporary table has a plain name that is not that of the entity's table. In its rows, as in those
of any insert, a field is looked up by its column.
-/

namespace QueryLoom.Batch

open Dml

variable {d : Dialect} {e : Entity}

/-! ### Names -/

/-- A suffix that can continue a plain word. -/
def IsPlainSuffix (suffix : String) : Prop := ∀ c ∈ suffix.toList, Ident.isPlainChar c = true

instance (suffix : String) : Decidable (IsPlainSuffix suffix) :=
  decidable_of_iff (suffix.toList.all Ident.isPlainChar = true) List.all_eq_true

lemma isPlain_append {base : String} (hbase : Ident.isPlain base.toList = true) {suffix : String}
    (h : IsPlainSuffix suffix) : Ident.isPlain (base ++ "_" ++ suffix).toList = true := by
  cases hchars : base.toList with
  | nil => simp [hchars, Ident.isPlain] at hbase
  | cons c cs =>
    simp only [hchars, Ident.isPlain, Bool.and_eq_true, List.all_eq_true] at hbase
    have hunderscore : Ident.isPlainChar '_' = true := by decide
    simp only [String.toList_append, hchars, List.cons_append, Ident.isPlain, hbase.1,
      Bool.true_and, List.all_append, Bool.and_eq_true, List.all_eq_true]
    exact ⟨⟨hbase.2, by simpa using hunderscore⟩, h⟩

lemma isPlain_tempName (e : Entity) {suffix : String} (h : IsPlainSuffix suffix) :
    Ident.isPlain (tempName e suffix).toList = true := by
  unfold tempName
  split_ifs with hbase
  · exact isPlain_append hbase h
  · exact isPlain_append (by decide) h

/-- A temporary table is not mistaken for the table of the entity. -/
lemma tempName_ne_table (he : LegibleEntity e) (suffix : String) :
    [.plain (tempName e suffix)] ≠ e.table.parts := by
  intro h
  have hbase : e.tableBase = tempName e suffix := by
    rw [Entity.tableBase, Ident.last, ← h]
    rfl
  have hplain : Ident.isPlain e.tableBase.toList = true := by
    have hlegible := he.table (.plain (tempName e suffix)) (by simp [← h])
    rwa [hbase]
  rw [tempName, if_pos hplain] at hbase
  have hlength := congrArg (fun s : String => s.toList.length) hbase
  have hunderscore : "_".toList.length = 1 := rfl
  simp only [toString_text, String.toList_append, List.length_append, hunderscore] at hlength
  omega

/-! ### Columns -/

lemma find?_column_of_mem {α : Type} (he : Accepted e) {fields : List Field}
    (hfields : ∀ g ∈ fields, g ∈ e.fields) {f : Field} (hf : f ∈ fields) (value : Field → α) :
    ((fields.map (·.part)).zip (fields.map value)).find?
      (fun x => columnName d x.1 = columnName d f.part) = some (f.part, value f) := by
  rw [List.zip_map', List.find?_map]
  cases hfind : fields.find? fun g => columnName d g.part = columnName d f.part with
  | none => simpa using List.find?_eq_none.mp hfind f hf
  | some g =>
    have hcolumn := List.find?_some hfind
    obtain rfl : g = f := eq_of_columnName he (hfields g (List.mem_of_find?_eq_some hfind))
      (hfields f hf) (by simpa using hcolumn)
    exact congrArg (Option.map fun f : Field => (f.part, value f)) hfind

lemma find?_column_of_notMem {α : Type} (he : Accepted e) {fields : List Field}
    (hfields : ∀ g ∈ fields, g ∈ e.fields) {f : Field} (hf : f ∈ e.fields) (hnot : f ∉ fields)
    (value : Field → α) :
    ((fields.map (·.part)).zip (fields.map value)).find?
      (fun x => columnName d x.1 = columnName d f.part) = none := by
  rw [List.zip_map', List.find?_map, Option.map_eq_none_iff, List.find?_eq_none]
  intro g hg hcolumn
  obtain rfl : g = f := eq_of_columnName he (hfields g hg) hf (by simpa using hcolumn)
  exact hnot hg

/-! ### Staging -/

/-- The statement of a step is read as a tree. -/
def Reads (d : Dialect) (step : Step) (c : Command) : Prop :=
  readStatement d (step.build d) = some c

/-- The statement that fills a temporary table with some records. -/
def fillCommand (temp : String) (fields : List Field) (records : List Record) : Command :=
  .insert false [.plain temp] (fields.map (·.part)) (records.map (stagedRow fields)) none

/-- The statements that create a temporary table and fill it. -/
def stageCommands (temp : String) (fields : List Field) (records : List Record) (size : Nat) :
    List Command :=
  .drop (.plain temp) :: .create (.plain temp) ::
    (chunks size records).map (fillCommand temp fields)

lemma stage_ok {temp : String} {fields : List Field} {records : List Record} {size : Nat}
    {steps : List Step} (h : stage temp fields records size = .ok steps) :
    (∀ r ∈ records, hasExactly fields r = true) ∧
      steps = .dropTemp temp :: .createTemp temp fields true ::
        (chunks size records).map fun chunk =>
          .fillTemp temp fields (chunk.map (stagedRow fields)) := by
  unfold stage at h
  split at h
  · cases h
  · next hnone =>
    refine ⟨fun r hr => ?_, (Except.ok.inj h).symm⟩
    simpa using List.find?_eq_none.mp hnone r hr

lemma reads_stage {temp : String} (htemp : Ident.isPlain temp.toList = true) {fields : List Field}
    (hne : fields ≠ []) (hfields : ∀ f ∈ fields, Legible f.part) {records : List Record}
    {size : Nat} {steps : List Step} (h : stage temp fields records size = .ok steps) :
    List.Forall₂ (Reads d) steps (stageCommands temp fields records size) := by
  obtain ⟨-, rfl⟩ := stage_ok h
  refine .cons ((readsAs_dropTemp htemp).readWith (by decide))
    (.cons (readStatement_createTemp htemp fields true) ?_)
  rw [List.forall₂_map_left_iff, List.forall₂_map_right_iff, List.forall₂_same]
  intro chunk hchunk
  have hrows : chunk.map (stagedRow fields) ≠ [] := by
    simpa using ne_nil_of_mem_chunks hchunk
  refine (readsAs_fillTemp htemp hne hfields hrows fun row hrow => ?_).readWith (by decide)
  obtain ⟨r, -, rfl⟩ := List.mem_map.mp hrow
  simpa [stagedRow, matchesOf] using hne

/-- The row of a record in a temporary table. -/
def joinedRow (g : Engine) (fields : List Field) (r : Record) : TableRow :=
  g.rowOf (fields.map (·.part)) ((matchesOf fields r).map (·.value))

lemma mapM_stagedRow (fields : List Field) (records : List Record) :
    (records.map (stagedRow fields)).mapM (fun row => row.mapM Cell.value?)
      = some (records.map fun r => (matchesOf fields r).map (·.value)) :=
  mapM_map_eq_some fun _ _ => mapM_map_eq_some fun _ _ => rfl

lemma run_fillCommand (g : Engine) (s : Store) (temp : String) (fields : List Field)
    (rows : List TableRow) (records : List Record) :
    g.run (s.withTemp (.plain temp) rows) (fillCommand temp fields records)
      = some (s.withTemp (.plain temp) (rows ++ records.map (joinedRow g fields))) := by
  have hrows : (records.map fun r => (matchesOf fields r).map (·.value)).map
      (g.rowOf (fields.map (·.part))) = records.map (joinedRow g fields) := List.map_map
  rw [← Store.withTemp_withTemp s (.plain temp) rows (rows ++ _), ← hrows, fillCommand, Engine.run,
    Store.temps_withTemp, mapM_stagedRow]
  rfl

lemma runAll_fillCommands (g : Engine) (s : Store) (temp : String) (fields : List Field)
    (rows : List TableRow) (chunks : List (List Record)) :
    g.runAll (chunks.map (fillCommand temp fields)) (s.withTemp (.plain temp) rows)
      = some (s.withTemp (.plain temp) (rows ++ chunks.flatten.map (joinedRow g fields))) := by
  induction chunks generalizing rows with
  | nil =>
    rw [List.flatten_nil, List.map_nil, List.map_nil, List.append_nil]
    rfl
  | cons chunk chunks ih =>
    rw [List.map_cons, Engine.runAll, List.foldlM_cons, run_fillCommand, List.flatten_cons,
      List.map_append, ← List.append_assoc]
    exact ih (rows ++ chunk.map (joinedRow g fields))

/-- Staging leaves a temporary table with one row for each record, in order. -/
lemma runAll_stageCommands (g : Engine) (s : Store) (temp : String) (fields : List Field)
    (records : List Record) (size : Nat) :
    g.runAll (stageCommands temp fields records size) s
      = some (s.withTemp (.plain temp) (records.map (joinedRow g fields))) := by
  have hcreated : g.runAll [.drop (.plain temp), .create (.plain temp)] s
      = some (s.withTemp (.plain temp) []) := by
    simp [Engine.runAll, Engine.run, Store.withTemp]
  have hfills := runAll_fillCommands g s temp fields [] (chunks size records)
  rw [flatten_chunks, List.nil_append] at hfills
  exact (g.runAll_append [.drop (.plain temp), .create (.plain temp)] _ s).trans
    (by rw [hcreated, Option.bind_some, hfills])

end QueryLoom.Batch

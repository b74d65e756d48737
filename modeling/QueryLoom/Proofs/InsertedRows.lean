import QueryLoom.Batch.Insert
import QueryLoom.Proofs.StagedRows

/-!
# The rows of an insert

The statements of an insert write one row for each record. What it holds in a column depends on the
record alone, if a column that is not listed is taken to hold its declared default.
-/

namespace QueryLoom

open Dml

namespace Dml

variable {d : Dialect}

/-! ### Rows that are offered to a table -/

/-- The cell of a column that is listed. -/
def Tuple.cell? (d : Dialect) (t : Tuple) (c : String) : Option Cell :=
  ((t.columns.zip t.cells).find? fun x => columnName d x.1 = c).map (·.2)

/-- What a row holds in the column of a field: its cell, or the declared default. -/
def Tuple.cellOf (d : Dialect) (t : Tuple) (f : Field) : Cell :=
  (t.cell? d (columnName d f.part)).getD (.value (f.default?.getD .null))

/-- An item of a row that is selected from a staged one. -/
def Item.cellFrom? (d : Dialect) (t : Tuple) : Item → Option Cell
  | .cell c => some c
  | .column p => t.cell? d (columnName d p)

/-- The rows that are staged in temporary tables. -/
abbrev StagedTuples := IdentPart → List Tuple

/-- The rows that a selection yields: the one it writes out, or one for each row of its source. -/
def Branch.rows (d : Dialect) (staged : StagedTuples) (columns : List IdentPart) (b : Branch) :
    List Tuple :=
  match b.items.mapM Item.cell?, b.source? with
  | some cells, _ => [⟨columns, cells⟩]
  | none, some temp => (staged temp).filterMap fun t =>
    (b.items.mapM (Item.cellFrom? d t)).map fun cells => ⟨columns, cells⟩
  | none, none => []

/-- The rows that a statement offers to a table. -/
def Command.rowsInto (d : Dialect) (staged : StagedTuples) (table : List IdentPart) :
    Command → List Tuple
  | .insert _ into columns rows _ =>
    if into = table then rows.map fun cells => ⟨columns, cells⟩ else []
  | .insertSelected into columns branches =>
    if into = table then branches.flatMap (Branch.rows d staged columns) else []
  | _ => []

/-- The staged rows after a statement. -/
def Command.stage (d : Dialect) (staged : StagedTuples) : Command → StagedTuples
  | .drop temp => Function.update staged temp []
  | c => fun temp => staged temp ++ c.rowsInto d staged [temp]

/-- The rows that statements offer to a table, one after the other. -/
def offered (d : Dialect) (table : List IdentPart) : StagedTuples → List Command → List Tuple
  | _, [] => []
  | staged, c :: cs => c.rowsInto d staged table ++ offered d table (c.stage d staged) cs

lemma offered_append (table : List IdentPart) (staged : StagedTuples) (cs cs' : List Command) :
    offered d table staged (cs ++ cs')
      = offered d table staged cs ++ offered d table (cs.foldl (Command.stage d) staged) cs' := by
  induction cs generalizing staged with
  | nil => rfl
  | cons c cs ih => rw [List.cons_append, offered, offered, ih, List.append_assoc, List.foldl_cons]

/-- Statements offer exactly the rows that they write out. -/
def Conveys (d : Dialect) (table : List IdentPart) (cs : List Command) : Prop :=
  ∀ staged, offered d table staged cs = cs.flatMap Command.written

lemma Conveys.append {table : List IdentPart} {cs cs' : List Command} (h : Conveys d table cs)
    (h' : Conveys d table cs') : Conveys d table (cs ++ cs') := by
  intro staged
  rw [offered_append, h, h', List.flatMap_append]

lemma mapM_cell? (cells : List Cell) : (cells.map Item.cell).mapM Item.cell? = some cells := by
  have hmap : (cells.map Item.cell).mapM Item.cell? = some (cells.map id) :=
    mapM_map_eq_some fun _ _ => rfl
  rwa [List.map_id] at hmap

end Dml

namespace Batch

variable {d : Dialect} {e : Entity} {policy : SkipPolicy} {r : Record} {records : List Record}

/-! ### Rows of records -/

/-- What the row of a record holds for a field: a generated value where one is left open, or else
the value that takes part, or else the declared default. -/
def recordCell (policy : SkipPolicy) (r : Record) (f : Field) : Cell :=
  match f.generator?, isGiven (r.get? f.name) with
  | some g, false => .generated g
  | _, _ => .value ((insertedValue? policy r f).getD (f.default?.getD .null))

/-- A row that is written for a record. -/
structure Writes (d : Dialect) (e : Entity) (policy : SkipPolicy) (r : Record) (t : Tuple) :
    Prop where
  columns : t.columns.Sublist (e.fields.map (·.part))
  width : t.cells.length = t.columns.length
  cells : ∀ f ∈ e.fields, t.cellOf d f = recordCell policy r f

/-- The rows of the records of a chunk. -/
def chunkTuples (e : Entity) (policy : SkipPolicy) (records : List Record) : List Tuple :=
  records.map fun r => ⟨(insertedFields e policy records).map (·.part),
    insertedRow policy (insertedFields e policy records) r⟩

lemma insertedCell_eq (policy : SkipPolicy) (r : Record) (f : Field) :
    insertedCell policy r f = recordCell policy r f := by
  unfold insertedCell recordCell insertedValue?
  cases hgenerator : f.generator? with
  | none => simp
  | some g =>
    cases hgiven : isGiven (r.get? f.name) with
    | false => simp [hgiven, Json.isNull]
    | true => simp [hgiven, isNull_of_isGiven hgiven]

/-- A field that no record of a chunk has a value for gets its default in all rows. -/
lemma recordCell_of_notMem {f : Field} (hf : f ∈ e.fields)
    (hnot : f ∉ insertedFields e policy records) (hr : r ∈ records) :
    recordCell policy r f = .value (f.default?.getD .null) := by
  have hnone : insertedValue? policy r f = none := by
    by_contra hvalue
    refine hnot (List.mem_filter.mpr ⟨hf, List.any_eq_true.mpr ⟨r, hr, ?_⟩⟩)
    exact Option.isSome_iff_ne_none.mpr hvalue
  have hgenerator : f.generator? = none := by
    by_contra hgenerator
    simp [insertedValue?, Option.isSome_iff_ne_none.mpr hgenerator] at hnone
  simp [recordCell, hgenerator, hnone]

lemma writes_chunkTuples (he : Accepted e) :
    List.Forall₂ (Writes d e policy) records (chunkTuples e policy records) := by
  rw [chunkTuples, List.forall₂_map_right_iff, List.forall₂_same]
  intro r hr
  have hfields : ∀ f ∈ insertedFields e policy records, f ∈ e.fields :=
    fun f hf => List.mem_of_mem_filter hf
  refine ⟨List.filter_sublist.map _, by simp [insertedRow], fun f hf => ?_⟩
  rw [Tuple.cellOf, Tuple.cell?, insertedRow]
  by_cases hmem : f ∈ insertedFields e policy records
  · rw [find?_column_of_mem he hfields hmem]
    exact insertedCell_eq policy r f
  · rw [find?_column_of_notMem he hfields hf hmem, recordCell_of_notMem hf hmem hr]
    rfl

/-! ### The statements of a chunk -/

lemma conveys_insert (replaces : Bool) (table columns : List IdentPart) (rows : List (List Cell))
    (conflict? : Option Conflict) :
    Conveys d table [.insert replaces table columns rows conflict?] := by
  intro staged
  simp [offered, Command.rowsInto, Command.written]

lemma written_absentBranches (table columns : List IdentPart)
    (rows : List (List Cell × List Match)) : (Command.insertSelected table columns
      (rows.map fun row => absentBranch d e row.1 row.2)).written
        = rows.map fun row => ⟨columns, row.1⟩ := by
  rw [Command.written, List.filterMap_map, ← List.filterMap_eq_map]
  refine List.filterMap_congr fun row _ => ?_
  rw [Function.comp_apply, absentBranch, mapM_cell?]
  rfl

lemma conveys_absentBranches (table columns : List IdentPart)
    (rows : List (List Cell × List Match)) :
    Conveys d table [.insertSelected table columns
      (rows.map fun row => absentBranch d e row.1 row.2)] := by
  intro staged
  have hbranch (row : List Cell × List Match) :
      (absentBranch d e row.1 row.2).rows d staged columns = [⟨columns, row.1⟩] := by
    rw [Branch.rows, absentBranch, mapM_cell?]
  simp only [offered, Command.rowsInto, if_true, List.append_nil, List.flatMap_cons,
    List.flatMap_nil, written_absentBranches, List.flatMap_map, hbranch]
  exact List.map_eq_flatMap.symm

/-- The statements that stage rows and copy them. -/
def stagedCommands (table : List IdentPart) (columns : List Field) (rows : List (List Cell))
    (temp : String) : List Command :=
  [.drop (.plain temp), .create (.plain temp),
    .insert false [.plain temp] (columns.map (·.part)) rows none,
    .insertSelected table (columns.map (·.part)) [copyBranch columns temp], .drop (.plain temp)]

lemma mapM_copied {columns : List Field} (hne : columns ≠ []) (temp : String) :
    (copyBranch columns temp).items.mapM Item.cell? = none := by
  obtain ⟨f, fs, rfl⟩ := List.exists_cons_of_ne_nil hne
  simp [copyBranch, List.mapM_cons, Item.cell?]

/-- The columns of a staged row are copied cell by cell. -/
lemma copied_row (he : Accepted e) {columns : List Field} (hcolumns : ∀ f ∈ columns, f ∈ e.fields)
    (temp : String) (cellOf : Field → Cell) :
    (copyBranch columns temp).items.mapM
      (Item.cellFrom? d ⟨columns.map (·.part), columns.map cellOf⟩)
        = some (columns.map cellOf) := by
  refine mapM_map_eq_some fun f hf => ?_
  rw [Item.cellFrom?, Tuple.cell?, find?_column_of_mem he hcolumns hf, Option.map_some]

lemma rows_copyBranch (he : Accepted e) {columns : List Field} (hne : columns ≠ [])
    (hcolumns : ∀ f ∈ columns, f ∈ e.fields) {temp : String} {staged : StagedTuples}
    (h : ∀ t ∈ staged (.plain temp), ∃ cellOf : Field → Cell,
      t = ⟨columns.map (·.part), columns.map cellOf⟩) :
    (copyBranch columns temp).rows d staged (columns.map (·.part)) = staged (.plain temp) := by
  rw [Branch.rows, mapM_copied hne]
  refine (List.filterMap_congr fun t ht => ?_).trans List.filterMap_some
  obtain ⟨cellOf, rfl⟩ := h t ht
  rw [copied_row he hcolumns, Option.map_some]

lemma conveys_staged (he : Accepted e) {columns : List Field} (hne : columns ≠ [])
    (hcolumns : ∀ f ∈ columns, f ∈ e.fields) {temp : String}
    (htemp : [.plain temp] ≠ e.table.parts) {rows : List (List Cell)}
    (hrows : ∀ row ∈ rows, ∃ cellOf : Field → Cell, row = columns.map cellOf) :
    Conveys d e.table.parts (stagedCommands e.table.parts columns rows temp) := by
  intro staged
  simp only [stagedCommands, offered, Command.rowsInto, Command.stage, Command.written, htemp,
    if_true, if_false, List.nil_append, List.append_nil, List.flatMap_cons, List.flatMap_nil,
    List.filterMap_cons, List.filterMap_nil, mapM_copied hne, Option.map_none]
  rw [rows_copyBranch he hne hcolumns]
  · simp
  · intro t ht
    simp only [Function.update_self, List.nil_append, if_true] at ht
    obtain ⟨row, hrow, rfl⟩ := List.mem_map.mp ht
    obtain ⟨cellOf, rfl⟩ := hrows row hrow
    exact ⟨cellOf, rfl⟩

/-- The steps that insert some rows, with the existence checks of each. -/
def insertSteps (e : Entity) (columns : List Field) (temp : String) (rows : List (List Cell))
    (checks : List (List Match)) : InsertMode → List Step
  | .insert => [.insert e columns rows]
  | .replace => [.replace e columns rows]
  | .ifNotExists => [.insertAbsent e columns (rows.zip checks)]
  | .tempTable => [.dropTemp temp, .createTemp temp columns false, .fillTemp temp columns rows,
      .insertStaged e columns temp, .dropTemp temp]

/-- What these steps are read as. -/
def insertCommands (d : Dialect) (e : Entity) (columns : List Field) (temp : String)
    (rows : List (List Cell)) (checks : List (List Match)) : InsertMode → List Command
  | .insert => [.insert false e.table.parts (columns.map (·.part)) rows none]
  | .replace => [.insert d.replaceInto?.isSome e.table.parts (columns.map (·.part)) rows
      (if d.replaceInto?.isSome then none else some (conflictOf e columns))]
  | .ifNotExists => [.insertSelected e.table.parts (columns.map (·.part))
      ((rows.zip checks).map fun row => absentBranch d e row.1 row.2)]
  | .tempTable => stagedCommands e.table.parts columns rows temp

/-- Checks that an insert of absent rows can be read back with. -/
def Checks (e : Entity) (policy : SkipPolicy) (mode : InsertMode) (checked : List Field)
    (records : List Record) (checks : List (List Match)) : Prop :=
  mode = .ifNotExists →
    List.Forall₂ (fun r ms => checked.mapM (existenceMatch e policy r) = .ok ms) records checks

lemma insertChunk_ok {mode : InsertMode} {checked : List Field} {temp : String} {steps : List Step}
    (h : insertChunk e mode checked policy temp records = .ok steps) :
    insertedFields e policy records ≠ [] ∧ ∃ checks, Checks e policy mode checked records checks ∧
      steps = insertSteps e (insertedFields e policy records) temp
        (records.map (insertedRow policy (insertedFields e policy records))) checks mode := by
  unfold insertChunk at h
  dsimp only at h
  split at h
  · exact absurd h SqlResult.throw_bind_ne_ok
  next hne =>
    refine ⟨by simpa using hne, ?_⟩
    cases mode with
    | ifNotExists =>
      obtain ⟨checks, hchecks, h⟩ := SqlResult.bind_eq_ok.mp h
      exact ⟨checks, fun _ => SqlResult.mapM_eq_ok.mp hchecks, (SqlResult.pure_eq_ok.mp h).symm⟩
    | insert | replace | tempTable =>
      exact ⟨[], fun hmode => (by cases hmode), (SqlResult.pure_eq_ok.mp h).symm⟩

/-- What the mode of an insert needs: an existence check looks at some fields, and a replacement at
the primary key unless the dialect has a statement for it. -/
structure Ready (d : Dialect) (e : Entity) (mode : InsertMode) (checked : List Field) : Prop where
  checked_ne : mode = .ifNotExists → checked ≠ []
  checked : ∀ f ∈ checked, f ∈ e.fields
  keyed : mode = .replace → d.replaceInto? = none → e.primaryKeys ≠ []

lemma field_of_existenceMatch {f : Field} {m : Match}
    (h : existenceMatch e policy r f = .ok m) : m.field = f := by
  unfold existenceMatch at h
  dsimp only at h
  split at h
  · cases h
    rfl
  · cases h

lemma legible_checks (he : Accepted e) {mode : InsertMode} {checked : List Field}
    (hready : Ready d e mode checked) {checks : List (List Match)}
    (h : Checks e policy mode checked records checks) (hmode : mode = .ifNotExists) :
    checks.length = records.length ∧ ∀ ms ∈ checks, ms ≠ [] ∧ LegibleMatches ms := by
  have hall := h hmode
  refine ⟨hall.length_eq.symm, fun ms hms => ?_⟩
  obtain ⟨r, -, hr⟩ := exists_of_mem_forall₂ hall hms
  have hfields := SqlResult.mapM_eq_ok.mp hr
  constructor
  · rintro rfl
    exact hready.checked_ne hmode (List.forall₂_nil_right_iff.mp hfields)
  · intro m hm
    obtain ⟨f, hf, hfield⟩ := exists_of_mem_forall₂ hfields hm
    rw [field_of_existenceMatch hfield]
    exact he.legible.fields f (hready.checked f hf)

lemma reads_insertSteps (he : Accepted e) {mode : InsertMode} {checked : List Field}
    (hready : Ready d e mode checked) {columns : List Field} (hne : columns ≠ [])
    (hcolumns : ∀ f ∈ columns, f ∈ e.fields) {temp : String}
    (htemp : Ident.isPlain temp.toList = true) {rows : List (List Cell)} (hrows : rows ≠ [])
    (hcells : ∀ row ∈ rows, row ≠ []) {checks : List (List Match)}
    (hchecks : mode = .ifNotExists →
      checks.length = rows.length ∧ ∀ ms ∈ checks, ms ≠ [] ∧ LegibleMatches ms) :
    List.Forall₂ (Reads d) (insertSteps e columns temp rows checks mode)
      (insertCommands d e columns temp rows checks mode) := by
  have hlegible : ∀ f ∈ columns, Legible f.part := fun f hf => he.legible.fields f (hcolumns f hf)
  cases mode with
  | insert =>
    exact .cons ((readsAs_insert he.legible hne hlegible hrows hcells).readWith (by decide)) .nil
  | replace =>
    have hkey := hready.keyed rfl
    exact .cons ((readsAs_replace he.legible hne hlegible hrows hcells hkey).readWith (by decide))
      .nil
  | ifNotExists =>
    obtain ⟨hlength, hmatches⟩ := hchecks rfl
    have hzip : rows.zip checks ≠ [] := by
      simpa [List.zip_eq_nil_iff, ← List.length_eq_zero_iff, hlength] using hrows
    refine .cons ((readsAs_insertAbsent he.legible hne hlegible hzip ?_).readWith (by decide)) .nil
    intro row hrow
    obtain ⟨hcell, hcheck⟩ := List.of_mem_zip hrow
    exact ⟨hcells row.1 hcell, hmatches row.2 hcheck⟩
  | tempTable =>
    have hdrop : Reads d (.dropTemp temp) (.drop (.plain temp)) :=
      (readsAs_dropTemp htemp).readWith (by decide)
    exact .cons hdrop (.cons (readStatement_createTemp htemp columns false)
      (.cons ((readsAs_fillTemp htemp hne hlegible hrows hcells).readWith (by decide))
        (.cons ((readsAs_insertStaged he.legible hne hlegible htemp).readWith (by decide))
          (.cons hdrop .nil))))

lemma conveys_insertCommands (he : Accepted e) (mode : InsertMode) {columns : List Field}
    (hne : columns ≠ []) (hcolumns : ∀ f ∈ columns, f ∈ e.fields) {temp : String}
    (htemp : [.plain temp] ≠ e.table.parts) {rows : List (List Cell)}
    (hrows : ∀ row ∈ rows, ∃ cellOf : Field → Cell, row = columns.map cellOf)
    (checks : List (List Match)) :
    Conveys d e.table.parts (insertCommands d e columns temp rows checks mode) := by
  cases mode with
  | insert => exact conveys_insert _ _ _ _ _
  | replace => exact conveys_insert _ _ _ _ _
  | ifNotExists => exact conveys_absentBranches _ _ _
  | tempTable => exact conveys_staged he hne hcolumns htemp hrows

lemma written_insertCommands {mode : InsertMode} {columns : List Field} (hne : columns ≠ [])
    {temp : String} {rows : List (List Cell)} {checks : List (List Match)}
    (hchecks : mode = .ifNotExists → checks.length = rows.length) :
    (insertCommands d e columns temp rows checks mode).flatMap Command.written
      = rows.map fun row => ⟨columns.map (·.part), row⟩ := by
  cases mode with
  | insert => exact List.append_nil _
  | replace => exact List.append_nil _
  | ifNotExists =>
    have hfst : (rows.zip checks).map Prod.fst = rows :=
      List.map_fst_zip (hchecks rfl).ge
    simp only [insertCommands, List.flatMap_cons, List.flatMap_nil, List.append_nil,
      written_absentBranches]
    conv_rhs => rw [← hfst]
    rw [List.map_map]
    rfl
  | tempTable =>
    simp [insertCommands, stagedCommands, Command.written, mapM_copied hne]

/-! ### All statements -/

lemma reads_insertChunk (he : Accepted e) {mode : InsertMode} {checked : List Field}
    (hready : Ready d e mode checked) {suffix : String} (hsuffix : IsPlainSuffix suffix)
    (hne : records ≠ []) {steps : List Step}
    (h : insertChunk e mode checked policy (tempName e suffix) records = .ok steps) :
    ∃ cs, List.Forall₂ (Reads d) steps cs ∧
      cs.flatMap Command.written = chunkTuples e policy records ∧ Conveys d e.table.parts cs := by
  obtain ⟨hcolumns, checks, hchecks, rfl⟩ := insertChunk_ok h
  have hfields : ∀ f ∈ insertedFields e policy records, f ∈ e.fields :=
    fun f hf => List.mem_of_mem_filter hf
  have hlegible := legible_checks he hready hchecks
  have hrow (row : List Cell)
      (hmem : row ∈ records.map (insertedRow policy (insertedFields e policy records))) :
      ∃ cellOf : Field → Cell, row = (insertedFields e policy records).map cellOf := by
    obtain ⟨r, -, rfl⟩ := List.mem_map.mp hmem
    exact ⟨insertedCell policy r, rfl⟩
  have hcells (row : List Cell)
      (hmem : row ∈ records.map (insertedRow policy (insertedFields e policy records))) :
      row ≠ [] := by
    obtain ⟨cellOf, rfl⟩ := hrow row hmem
    simpa using hcolumns
  have hread := reads_insertSteps he hready hcolumns hfields (isPlain_tempName e hsuffix)
    (by simpa using hne) hcells fun hmode => by simpa using hlegible hmode
  refine ⟨_, hread, ?_, ?_⟩
  · rw [written_insertCommands hcolumns fun hmode => by simpa using (hlegible hmode).1,
      List.map_map]
    rfl
  · exact conveys_insertCommands he mode hcolumns hfields (tempName_ne_table he.legible suffix)
      hrow checks

lemma reads_insertChunks (he : Accepted e) {mode : InsertMode} {checked : List Field}
    (hready : Ready d e mode checked) {suffixes : Suffixes}
    (hsuffixes : ∀ index, IsPlainSuffix (suffixes index)) {chunks : List (List Record)}
    (hne : ∀ chunk ∈ chunks, chunk ≠ []) {index : Nat} {steps : List Step}
    (h : insertChunks e mode checked policy suffixes index chunks = .ok steps) :
    ∃ cs, List.Forall₂ (Reads d) steps cs ∧
      cs.flatMap Command.written = chunks.flatMap (chunkTuples e policy) ∧
      Conveys d e.table.parts cs := by
  induction chunks generalizing index steps with
  | nil =>
    cases h
    exact ⟨[], .nil, rfl, fun _ => rfl⟩
  | cons chunk rest ih =>
    rw [insertChunks] at h
    obtain ⟨first, hfirst, h⟩ := SqlResult.bind_eq_ok.mp h
    obtain ⟨others, hothers, h⟩ := SqlResult.bind_eq_ok.mp h
    obtain rfl := SqlResult.pure_eq_ok.mp h
    obtain ⟨cs, hread, hwritten, hconveys⟩ := reads_insertChunk he hready (hsuffixes index)
      (hne chunk List.mem_cons_self) hfirst
    obtain ⟨cs', hread', hwritten', hconveys'⟩ :=
      ih (fun c hc => hne c (List.mem_cons_of_mem chunk hc)) hothers
    refine ⟨cs ++ cs', List.rel_append hread hread', ?_, hconveys.append hconveys'⟩
    rw [List.flatMap_append, hwritten, hwritten', List.flatMap_cons]

lemma writes_chunks (he : Accepted e) (chunks : List (List Record)) :
    List.Forall₂ (Writes d e policy) chunks.flatten (chunks.flatMap (chunkTuples e policy)) := by
  induction chunks with
  | nil => exact .nil
  | cons chunk rest ih => exact List.rel_append (writes_chunkTuples he) ih

lemma existenceFields_ok {names? : Option (List String)} {fields : List Field}
    (h : existenceFields e names? = .ok fields) : fields ≠ [] ∧ ∀ f ∈ fields, f ∈ e.fields :=
  namedFields_ok (fun _ hf => List.mem_of_mem_filter hf) h

/-- An insert has either nothing to do, or chunks to insert. -/
lemma insertPlan_ok {mode : InsertMode} {existence? : Option (List String)} {config : Config}
    {suffixes : Suffixes} {steps : List Step}
    (h : insertPlan e records mode existence? config suffixes = .ok steps) :
    (records = [] ∧ steps = []) ∨ ∃ checked, Ready config.dialect e mode checked ∧
      insertChunks e mode checked config.skip suffixes 0 (chunks config.maxDeal records)
        = .ok steps := by
  unfold insertPlan at h
  obtain ⟨_, -, h⟩ := SqlResult.bind_eq_ok.mp h
  split at h
  · next hnone => exact .inl ⟨by simpa using hnone, (SqlResult.pure_eq_ok.mp h).symm⟩
  refine .inr ?_
  dsimp only at h
  split at h
  · next hmode =>
    obtain ⟨checked, hchecked, h⟩ := SqlResult.bind_eq_ok.mp h
    split at h
    · exact absurd h SqlResult.throw_bind_ne_ok
    obtain ⟨hne, hfields⟩ := existenceFields_ok hchecked
    exact ⟨checked, ⟨fun _ => hne, hfields, by simp [hmode]⟩, h⟩
  · next hmode =>
    obtain ⟨checked, hchecked, h⟩ := SqlResult.bind_eq_ok.mp h
    obtain rfl := SqlResult.pure_eq_ok.mp hchecked
    split at h
    · exact absurd h SqlResult.throw_bind_ne_ok
    next hkeyless =>
      refine ⟨[], ⟨fun h => absurd h hmode, by simp, fun hreplace hnone => ?_⟩, h⟩
      simpa [hreplace, hnone, Entity.isKeyless] using hkeyless

lemma insert_ok {mode : InsertMode} {existence? : Option (List String)} {config : Config}
    {suffixes : Suffixes} {statements : List Statement}
    (h : (insert e records mode existence? config suffixes).value = .ok statements) :
    ∃ steps, insertPlan e records mode existence? config suffixes = .ok steps ∧
      statements = steps.map (Step.build config.dialect) := by
  unfold insert at h
  cases hplan : insertPlan e records mode existence? config suffixes with
  | error err => simp [hplan] at h
  | ok steps => exact ⟨steps, rfl, by simpa [hplan] using h.symm⟩

/-- The statements of an insert write one row for each record in order, and offer just these rows to
the table of the entity. What a row holds for a field depends on the record alone, neither on the
other records nor on how they are cut into chunks. -/
theorem insert_row_of_record {decl : EntityDecl} (hdecl : decl.build = .ok e) {mode : InsertMode}
    {existence? : Option (List String)} {config : Config} {suffixes : Suffixes}
    (hsuffixes : ∀ index, IsPlainSuffix (suffixes index)) {statements : List Statement}
    (h : (insert e records mode existence? config suffixes).value = .ok statements) :
    ∃ cs, List.Forall₂ (fun s c => readStatement config.dialect s = some c) statements cs ∧
      List.Forall₂ (Writes config.dialect e config.skip) records (cs.flatMap Command.written) ∧
      ∀ staged, offered config.dialect e.table.parts staged cs = cs.flatMap Command.written := by
  have he := accepted_of_build hdecl
  have hplan : ∃ steps, insertPlan e records mode existence? config suffixes = .ok steps ∧
      steps.map (Step.build config.dialect) = statements := by
    unfold insert at h
    cases hplan : insertPlan e records mode existence? config suffixes with
    | error err => simp [hplan] at h
    | ok steps => exact ⟨steps, rfl, by simpa [hplan] using h⟩
  obtain ⟨steps, hplan, rfl⟩ := hplan
  rcases insertPlan_ok hplan with ⟨rfl, rfl⟩ | ⟨checked, hready, hchunks⟩
  · exact ⟨[], .nil, .nil, fun _ => rfl⟩
  · obtain ⟨cs, hread, hwritten, hconveys⟩ := reads_insertChunks he hready hsuffixes
      (fun chunk hchunk => ne_nil_of_mem_chunks hchunk) hchunks
    refine ⟨cs, List.forall₂_map_left_iff.mpr hread, ?_, hconveys⟩
    have hwrites := @writes_chunks config.dialect e config.skip he (chunks config.maxDeal records)
    rwa [flatten_chunks, ← hwritten] at hwrites

/-- Two new lines of an order; the number of the first one is left to the engine. -/
def newLines : List Record :=
  [[("amount", .null), ("note", .string "gift"), ("order_id", .int 7)],
    [("line", .int 2), ("order_id", .int 7)]]

/-- The first line gets a generated number and the default amount, the second one no note, though
both are staged with the same columns. -/
theorem insert_row_of_order_line :
    orderLineDecl.build = .ok orderLine ∧ IsPlainSuffix "0" ∧ ∃ statements,
      (insert orderLine newLines .tempTable none .standard fun _ => "0").value = .ok statements ∧
        ∃ cs first second, List.Forall₂ (fun s c => readStatement .mysql s = some c) statements cs ∧
          cs.flatMap Command.written = [first, second] ∧
          first.cellOf .mysql orderLine.fields[1] = .generated .shortUuid ∧
          first.cellOf .mysql orderLine.fields[2] = .value (.int 1) ∧
          second.cellOf .mysql orderLine.fields[1] = .value (.int 2) ∧
          second.cellOf .mysql orderLine.fields[3] = .value .null := by
  have hsuffix : IsPlainSuffix "0" := by decide
  have hchunks : chunks Config.standard.maxDeal newLines = [newLines] := by
    simp [chunks, newLines, Config.standard]
  have hplan : ∃ steps, insertPlan orderLine newLines .tempTable none .standard (fun _ => "0")
      = .ok steps := by
    unfold insertPlan
    rw [hchunks]
    exact ⟨_, rfl⟩
  obtain ⟨steps, hplan⟩ := hplan
  have hinsert : (insert orderLine newLines .tempTable none .standard fun _ => "0").value
      = .ok (steps.map (Step.build .mysql)) := by
    rw [insert, hplan]
    rfl
  refine ⟨build_orderLine, hsuffix, _, hinsert, ?_⟩
  obtain ⟨cs, hread, hwrites, -⟩ := insert_row_of_record build_orderLine (fun _ => hsuffix) hinsert
  obtain ⟨first, rest, hfirst, hrest, htuples⟩ := List.forall₂_cons_left_iff.mp hwrites
  obtain ⟨second, rest, hsecond, hnil, rfl⟩ := List.forall₂_cons_left_iff.mp hrest
  obtain rfl := List.forall₂_nil_left_iff.mp hnil
  have hmem (i : Nat) (hi : i < orderLine.fields.length) : orderLine.fields[i] ∈ orderLine.fields :=
    List.getElem_mem hi
  exact ⟨cs, first, second, hread, htuples, hfirst.cells _ (hmem 1 (by decide)),
    hfirst.cells _ (hmem 2 (by decide)), hsecond.cells _ (hmem 1 (by decide)),
    hsecond.cells _ (hmem 3 (by decide))⟩

end Batch

end QueryLoom

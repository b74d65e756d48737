import Mathlib.Data.List.ReduceOption
import Mathlib.Data.Option.Basic
import QueryLoom.Proofs.ExistenceChecks

/-!
# Inserting absent rows

An insert of absent rows decides about all records of a chunk by the rows that its table had before
the statement. That leaves what inserting one record after the other leaves exactly if the records
that are inserted together are apart: the row of none of them would have kept a later one out.
-/

namespace QueryLoom

open Dml

/-! ### One at a time, or together -/

section Adding

variable {α β : Type} (row : α → β) (hits : β → α → Bool) {rows : List β} {xs : List α}

/-- The items that no row is found for. -/
def absent (rows : List β) (xs : List α) : List α := xs.filter fun x => !rows.any (hits · x)

/-- Add the row of an item unless a row is found for it. -/
def addOne (rows : List β) (x : α) : List β :=
  if rows.any (hits · x) then rows else rows ++ [row x]

/-- Add the rows of items one after the other. -/
def addEach (rows : List β) (xs : List α) : List β := xs.foldl (addOne row hits) rows

/-- Add the rows of items all at once, unless a row is found for an item at the beginning. -/
def addTogether (rows : List β) (xs : List α) : List β := rows ++ (absent hits rows xs).map row

/-- The row of an item is not found for one that is added together with it. -/
def Apart : List β → List (List α) → Prop
  | _, [] => True
  | rows, xs :: rest =>
    (absent hits rows xs).Pairwise (fun x y => hits (row x) y = false) ∧
      Apart (addTogether row hits rows xs) rest

variable {row hits}

lemma addEach_append (ys : List α) :
    addEach row hits rows (xs ++ ys) = addEach row hits (addEach row hits rows xs) ys :=
  List.foldl_append

lemma absent_cons_of_any {x : α} (h : rows.any (hits · x) = true) (xs : List α) :
    absent hits rows (x :: xs) = absent hits rows xs := by
  simp [absent, h]

lemma absent_cons_of_not_any {x : α} (h : rows.any (hits · x) = false) (xs : List α) :
    absent hits rows (x :: xs) = x :: absent hits rows xs := by
  simp [absent, h]

lemma map_absent (xs : List α) : (absent hits rows xs).map row
    = xs.filterMap fun x => if rows.any (hits · x) then none else some (row x) := by
  rw [absent, ← List.filterMap_eq_map, List.filterMap_filter]
  refine List.filterMap_congr fun x _ => ?_
  cases rows.any (hits · x) <;> rfl

/-- After some rows were added, an item that no old row is found for is added, or kept out by one of
the new rows. -/
lemma addOne_append (new : List β) (x : α) : addOne row hits (rows ++ new) x =
    if rows.any (hits · x) then rows ++ new else rows ++ addOne row hits new x := by
  unfold addOne
  rw [List.any_append]
  split_ifs with hboth hold hnew hold hnew <;> simp_all

/-- Rows that were added meanwhile only keep items out. -/
lemma length_addEach_le (new : List β) (xs : List α) :
    (addEach row hits (rows ++ new) xs).length
      ≤ (rows ++ new).length + (absent hits rows xs).length := by
  induction xs generalizing new with
  | nil => simp [addEach, absent]
  | cons x xs ih =>
    rw [addEach, List.foldl_cons, ← addEach, addOne_append]
    cases hold : rows.any (hits · x) with
    | true =>
      rw [absent_cons_of_any hold]
      exact ih new
    | false =>
      have hle := ih (addOne row hits new x)
      have hone : (addOne row hits new x).length ≤ new.length + 1 := by
        unfold addOne
        split_ifs <;> simp
      rw [absent_cons_of_not_any hold]
      simp only [List.length_append, List.length_cons, Bool.false_eq_true, if_false] at hle ⊢
      omega

/-- After some rows were added, adding items one after the other is adding together those that the
first rows do not keep out exactly if none of these is kept out by a new row. -/
lemma addEach_append_eq_iff (new : List β) (xs : List α) :
    addEach row hits (rows ++ new) xs = rows ++ new ++ (absent hits rows xs).map row ↔
      (absent hits rows xs).Pairwise (fun x y => hits (row x) y = false) ∧
        ∀ y ∈ absent hits rows xs, new.any (hits · y) = false := by
  induction xs generalizing new with
  | nil => simp [addEach, absent]
  | cons x xs ih =>
    rw [addEach, List.foldl_cons, ← addEach, addOne_append]
    cases hold : rows.any (hits · x) with
    | true =>
      rw [absent_cons_of_any hold]
      exact ih new
    | false =>
      rw [absent_cons_of_not_any hold]
      cases hnew : new.any (hits · x) with
      | true =>
        -- the item is kept out, so that one row is missing in the end
        refine iff_of_false (fun heq => ?_) fun h => ?_
        · have hle := @length_addEach_le _ _ row hits rows new xs
          have hlength := congrArg List.length heq
          simp only [addOne, hnew, if_true, Bool.false_eq_true, if_false, List.length_append,
            List.map_cons, List.length_cons, List.length_map] at hle hlength
          omega
        · simpa [hnew] using h.2 x List.mem_cons_self
      | false =>
        have hadded : addOne row hits new x = new ++ [row x] := by simp [addOne, hnew]
        have hassoc : rows ++ new ++ row x :: (absent hits rows xs).map row
            = rows ++ (new ++ [row x]) ++ (absent hits rows xs).map row := by simp
        have hkept (y : α) : (new ++ [row x]).any (hits · y) = false ↔
            new.any (hits · y) = false ∧ hits (row x) y = false := by
          rw [List.any_append, Bool.or_eq_false_iff, List.any_cons, List.any_nil, Bool.or_false]
        rw [if_neg Bool.false_ne_true, hadded, List.map_cons, hassoc, ih, List.pairwise_cons,
          List.forall_mem_cons]
        simp only [hkept, hnew, true_and, imp_and, forall_and]
        exact ⟨fun h => ⟨⟨h.2.2, h.1⟩, h.2.1⟩, fun h => ⟨h.1.2, h.2, h.1.1⟩⟩

/-- Adding items one after the other is adding them together exactly if the row of none is found for
a later one. -/
lemma addEach_eq_addTogether_iff : addEach row hits rows xs = addTogether row hits rows xs ↔
    (absent hits rows xs).Pairwise (fun x y => hits (row x) y = false) := by
  have h := @addEach_append_eq_iff _ _ row hits rows [] xs
  simpa [addTogether] using h

/-- After each chunk, adding one after the other has led to the same rows as adding each chunk
together exactly if the items that are added together are apart. -/
lemma addEach_take_iff {chunks : List (List α)} :
    (∀ k, addEach row hits rows (chunks.take k).flatten
      = (chunks.take k).foldl (addTogether row hits) rows) ↔ Apart row hits rows chunks := by
  induction chunks generalizing rows with
  | nil => simp [addEach, Apart]
  | cons xs rest ih =>
    rw [Apart, ← addEach_eq_addTogether_iff, ← ih]
    constructor
    · intro h
      have hfirst : addEach row hits rows xs = addTogether row hits rows xs := by simpa using h 1
      refine ⟨hfirst, fun k => ?_⟩
      have hrest := h (k + 1)
      rwa [List.take_succ_cons, List.flatten_cons, addEach_append, hfirst, List.foldl_cons] at hrest
    · rintro ⟨hfirst, hrest⟩ k
      cases k with
      | zero => simp [addEach]
      | succ k =>
        rw [List.take_succ_cons, List.flatten_cons, addEach_append, hfirst, List.foldl_cons]
        exact hrest k

lemma apart_of_pairwise {chunks : List (List α)}
    (h : ∀ xs ∈ chunks, xs.Pairwise fun x y => hits (row x) y = false) :
    Apart row hits rows chunks := by
  induction chunks generalizing rows with
  | nil => trivial
  | cons xs rest ih =>
    rw [List.forall_mem_cons] at h
    exact ⟨h.1.sublist List.filter_sublist, ih h.2⟩

end Adding

/-! ### Inserts of selected rows -/

namespace Dml

/-- The rows of tables. -/
abbrev Tables := List IdentPart → List TableRow

/-- What an engine fills in where an insert gives no value. -/
structure Filling where
  /-- The values of columns that are not listed. -/
  omitted : TableRow
  /-- The values that are generated for the row at a position, counted over all statements. -/
  generated : Nat → TableRow

/-- The value of a cell in a column of the row at a position. -/
def Filling.valueOf (fill : Filling) (position : Nat) (column : String) : Cell → Json
  | .value v => v
  | .generated _ => fill.generated position column

namespace Engine

variable (g : Engine) (fill : Filling)

/-- The row that a written row at a position becomes. -/
def rowOfTuple (position : Nat) (t : Tuple) : TableRow := fun c =>
  match t.cell? g.dialect c with
  | some cell => fill.valueOf position c cell
  | none => fill.omitted c

/-- Whether a table has a row for which a selection is left out. -/
def isExcepted (tables : Tables) (b : Branch) : Bool :=
  b.unless?.any fun x => (tables x.1).any fun row => g.alternative row ⟨x.2, none⟩ = .yes

/-- The row that a selection at a position yields if it is not left out. What a selection reads from
a table is not known. -/
def selected? (tables : Tables) (x : (List IdentPart × Branch) × Nat) :
    Option (Option TableRow) := do
  guard (x.1.2.source? = g.dialect.dual?.map .plain)
  let cells ← x.1.2.items.mapM Item.cell?
  return if g.isExcepted tables x.1.2 then none else some (g.rowOfTuple fill x.2 ⟨x.1.1, cells⟩)

/-- Insert selected rows. All selections see the tables as they were before the statement. -/
def insertSelected (position : Nat) (tables : Tables) : Command → Option Tables
  | .insertSelected table columns branches => do
    let selections := (Command.insertSelected table columns branches).selections
    let rows ← (selections.zipIdx position).mapM (g.selected? fill tables)
    return Function.update tables table (tables table ++ rows.reduceOption)
  | _ => none

/-- Run inserts of selected rows one after the other. -/
def insertAll : (position : Nat) → Tables → List Command → Option Tables
  | _, tables, [] => some tables
  | position, tables, c :: cs => do
    insertAll (position + c.selections.length) (← g.insertSelected fill position tables c) cs

end Engine

end Dml

namespace Batch

variable {e : Entity} {policy : SkipPolicy} {checked : List Field} {g : Engine} {fill : Filling}

/-- A record with its position among all records. -/
abbrev Placed := Record × Nat

/-- The row of a record. -/
def rowOfRecord (g : Engine) (e : Entity) (policy : SkipPolicy) (fill : Filling) (x : Placed) :
    TableRow := fun c =>
  match e.fields.find? fun f => columnName g.dialect f.part = c with
  | some f => fill.valueOf x.2 c (recordCell policy x.1 f)
  | none => fill.omitted c

/-- Whether a row has the existence values of a record. -/
def hasValuesOf (g : Engine) (policy : SkipPolicy) (checked : List Field) (row : TableRow)
    (x : Placed) : Bool :=
  checked.all fun f => g.compare (g.valueOf row f.part) (comparedValue policy x.1 f) = .yes

/-- Columns that are not listed get the declared defaults. -/
def Declares (g : Engine) (e : Entity) (fill : Filling) : Prop :=
  ∀ f ∈ e.fields, fill.omitted (columnName g.dialect f.part) = f.default?.getD .null

/-! ### The selection of a record -/

lemma alternative_equalTest (row : TableRow) (ms : List Match) :
    g.alternative row ⟨ms.map equalTest, none⟩ = .yes ↔
      ∀ m ∈ ms, g.compare (g.valueOf row m.field.part) m.value = .yes := by
  rw [Engine.alternative, Truth.all_eq_yes]
  simp only [List.mem_map, forall_exists_index, and_imp, forall_apply_eq_imp_iff₂]
  rfl

lemma alternative_existenceGroup (row : TableRow) (x : Placed) :
    decide (g.alternative row ⟨(existenceGroup policy checked x.1).map equalTest, none⟩ = .yes)
      = hasValuesOf g policy checked row x := by
  rw [Bool.eq_iff_iff, decide_eq_true_iff, alternative_equalTest, hasValuesOf, List.all_eq_true]
  simp [existenceGroup]

/-- What a table gets for the row that is written for a record depends on the record alone. -/
lemma rowOfTuple_insertedRow (he : Accepted e) (hfill : Declares g e fill) {records : List Record}
    {r : Record} (hr : r ∈ records) (position : Nat) :
    g.rowOfTuple fill position ⟨(insertedFields e policy records).map (·.part),
      insertedRow policy (insertedFields e policy records) r⟩
        = rowOfRecord g e policy fill (r, position) := by
  have hfields : ∀ f ∈ insertedFields e policy records, f ∈ e.fields :=
    fun f hf => List.mem_of_mem_filter hf
  funext c
  rw [Engine.rowOfTuple, rowOfRecord, Tuple.cell?, insertedRow]
  cases hfind : e.fields.find? fun f => columnName g.dialect f.part = c with
  | none =>
    have hnone : (((insertedFields e policy records).map (·.part)).zip
        ((insertedFields e policy records).map (insertedCell policy r))).find?
          (fun x => columnName g.dialect x.1 = c) = none := by
      rw [List.zip_map', List.find?_map, Option.map_eq_none_iff, List.find?_eq_none]
      exact fun f hf => List.find?_eq_none.mp hfind f (hfields f hf)
    rw [hnone]
    rfl
  | some f =>
    have hf := List.mem_of_find?_eq_some hfind
    obtain rfl : columnName g.dialect f.part = c := by simpa using List.find?_some hfind
    by_cases hmem : f ∈ insertedFields e policy records
    · rw [find?_column_of_mem he hfields hmem, Option.map_some, insertedCell_eq]
    · have hcell := @recordCell_of_notMem e policy r records f hf hmem hr
      rw [find?_column_of_notMem he hfields hf hmem]
      simp only [hcell]
      exact hfill f hf

lemma selected?_absentBranch (he : Accepted e) (hfill : Declares g e fill) {records : List Record}
    (tables : Tables) {r : Record} (hr : r ∈ records) (position : Nat) :
    g.selected? fill tables (((insertedFields e policy records).map (·.part),
      absentBranch g.dialect e (insertedRow policy (insertedFields e policy records) r)
        (existenceGroup policy checked r)), position)
      = some (if (tables e.table.parts).any (hasValuesOf g policy checked · (r, position)) then none
        else some (rowOfRecord g e policy fill (r, position))) := by
  have hexcepted : g.isExcepted tables (absentBranch g.dialect e
      (insertedRow policy (insertedFields e policy records) r) (existenceGroup policy checked r))
      = (tables e.table.parts).any (hasValuesOf g policy checked · (r, position)) := by
    simp only [Engine.isExcepted, absentBranch, Option.any_some,
      ← alternative_existenceGroup _ (r, position)]
  simp only [Engine.selected?, hexcepted]
  rw [absentBranch, mapM_cell?, ← rowOfTuple_insertedRow he hfill hr]
  simp

lemma insertSelected_absentCommand (he : Accepted e) (hfill : Declares g e fill)
    (records : List Record) (position : Nat) (tables : Tables) :
    g.insertSelected fill position tables (absentCommand g.dialect e policy checked records)
      = some (Function.update tables e.table.parts
        (addTogether (rowOfRecord g e policy fill) (hasValuesOf g policy checked)
          (tables e.table.parts) (records.zipIdx position))) := by
  have hrows : ((absentCommand g.dialect e policy checked records).selections.zipIdx position).mapM
      (g.selected? fill tables) = some ((records.zipIdx position).map fun x =>
        if (tables e.table.parts).any (hasValuesOf g policy checked · x) then none
        else some (rowOfRecord g e policy fill x)) := by
    rw [absentCommand, Command.selections, List.map_map, List.zipIdx_map]
    exact mapM_map_eq_some fun x hx =>
      selected?_absentBranch he hfill tables (List.fst_mem_of_mem_zipIdx hx) x.2
  rw [absentCommand] at hrows ⊢
  rw [Engine.insertSelected, hrows, Option.bind_eq_bind, Option.bind_some, List.reduceOption,
    List.filterMap_map, addTogether, map_absent]
  rfl

/-! ### All statements -/

/-- Records in chunks, each with its position among all records from a number on. -/
def placed : (position : Nat) → List (List Record) → List (List Placed)
  | _, [] => []
  | position, chunk :: rest => chunk.zipIdx position :: placed (position + chunk.length) rest

lemma flatten_placed (position : Nat) (chunks : List (List Record)) :
    (placed position chunks).flatten = chunks.flatten.zipIdx position := by
  induction chunks generalizing position with
  | nil => rfl
  | cons chunk rest ih =>
    rw [placed, List.flatten_cons, List.flatten_cons, ih, List.zipIdx_append]

lemma length_placed (position : Nat) (chunks : List (List Record)) :
    (placed position chunks).length = chunks.length := by
  induction chunks generalizing position with
  | nil => rfl
  | cons chunk rest ih => rw [placed, List.length_cons, List.length_cons, ih]

lemma take_placed (position : Nat) (chunks : List (List Record)) (k : Nat) :
    (placed position chunks).take k = placed position (chunks.take k) := by
  induction chunks generalizing position k with
  | nil => simp [placed]
  | cons chunk rest ih =>
    cases k with
    | zero => rfl
    | succ k => rw [placed, List.take_succ_cons, List.take_succ_cons, placed, ih]

lemma exists_of_mem_placed {position : Nat} {chunks : List (List Record)} {xs : List Placed}
    (h : xs ∈ placed position chunks) : ∃ chunk ∈ chunks, xs.length = chunk.length := by
  induction chunks generalizing position with
  | nil => cases h
  | cons chunk rest ih =>
    rcases List.mem_cons.mp h with rfl | h
    · exact ⟨chunk, List.mem_cons_self, List.length_zipIdx⟩
    · obtain ⟨c, hc, hlength⟩ := ih h
      exact ⟨c, List.mem_cons_of_mem _ hc, hlength⟩

lemma insertAll_absentCommands (he : Accepted e) (hfill : Declares g e fill)
    (chunks : List (List Record)) (position : Nat) (tables : Tables) :
    g.insertAll fill position tables (chunks.map (absentCommand g.dialect e policy checked))
      = some (Function.update tables e.table.parts ((placed position chunks).foldl
        (addTogether (rowOfRecord g e policy fill) (hasValuesOf g policy checked))
        (tables e.table.parts))) := by
  induction chunks generalizing position tables with
  | nil => simp [placed, Engine.insertAll]
  | cons chunk rest ih =>
    have hlength : (absentCommand g.dialect e policy checked chunk).selections.length
        = chunk.length := by
      simp [absentCommand, Command.selections]
    rw [List.map_cons, Engine.insertAll, insertSelected_absentCommand he hfill, hlength, placed,
      List.foldl_cons]
    refine (ih (position + chunk.length) _).trans ?_
    rw [Function.update_self, Function.update_idem]

/-- The tables after records were added one after the other. -/
def addedEach (g : Engine) (e : Entity) (policy : SkipPolicy) (checked : List Field)
    (fill : Filling) (tables : Tables) (xs : List Placed) : Tables :=
  Function.update tables e.table.parts
    (addEach (rowOfRecord g e policy fill) (hasValuesOf g policy checked) (tables e.table.parts) xs)

/-- The tables after the records of each chunk were added together. -/
def addedByChunks (g : Engine) (e : Entity) (policy : SkipPolicy) (checked : List Field)
    (fill : Filling) (tables : Tables) (chunks : List (List Placed)) : Tables :=
  Function.update tables e.table.parts
    (chunks.foldl (addTogether (rowOfRecord g e policy fill) (hasValuesOf g policy checked))
      (tables e.table.parts))

/-- The row of a record that is added with its chunk does not have the existence values of one that
is added after it with the same chunk. -/
def ApartIn (g : Engine) (e : Entity) (policy : SkipPolicy) (checked : List Field)
    (fill : Filling) (tables : Tables) (chunks : List (List Placed)) : Prop :=
  Apart (rowOfRecord g e policy fill) (hasValuesOf g policy checked) (tables e.table.parts) chunks

lemma addedEach_eq_iff_apartIn {tables : Tables} {chunks : List (List Placed)} :
    (∀ k, addedEach g e policy checked fill tables (chunks.take k).flatten
      = addedByChunks g e policy checked fill tables (chunks.take k)) ↔
      ApartIn g e policy checked fill tables chunks := by
  simp only [addedEach, addedByChunks, (Function.update_injective tables e.table.parts).eq_iff]
  exact addEach_take_iff

/-- An insert of absent rows has one statement for each chunk. If the table fills in what the entity
declares, it adds, of each chunk, the rows of the records whose existence values no row has before
the statement. After every statement the tables are what adding the records one after the other
leads to exactly if the records that are added with a chunk are apart, as they are in chunks of one
record. -/
theorem absent_rows_by_chunks {decl : EntityDecl} (hdecl : decl.build = .ok e)
    {records : List Record} {existence? : Option (List String)} {config : Config}
    {suffixes : Suffixes} {statements : List Statement}
    (h : (insert e records .ifNotExists existence? config suffixes).value = .ok statements) :
    ∃ checked cs, (records ≠ [] → existenceFields e existence? = .ok checked) ∧
      List.Forall₂ (fun s c => readStatement config.dialect s = some c) statements cs ∧
      ∃ byChunks, byChunks = placed 0 (chunks config.maxDeal records) ∧
        byChunks.flatten = records.zipIdx ∧ cs.length = byChunks.length ∧
        ∀ g : Engine, g.dialect = config.dialect → ∀ fill, Declares g e fill → ∀ tables,
          (∀ k, g.insertAll fill 0 tables (cs.take k)
            = some (addedByChunks g e config.skip checked fill tables (byChunks.take k))) ∧
          ((∀ k, g.insertAll fill 0 tables (cs.take k)
            = some (addedEach g e config.skip checked fill tables (byChunks.take k).flatten)) ↔
              ApartIn g e config.skip checked fill tables byChunks) ∧
          (config.maxDeal = 1 → ApartIn g e config.skip checked fill tables byChunks) := by
  have he := accepted_of_build hdecl
  obtain ⟨checked, hexistence, -, -, hread⟩ := reads_insert_absent he h
  refine ⟨checked, _, hexistence, hread, _, rfl, ?_, ?_, fun g hg fill hfill tables => ?_⟩
  · rw [flatten_placed, flatten_chunks]
  · rw [List.length_map, length_placed]
  rw [← hg]
  have hrun (k : Nat) : g.insertAll fill 0 tables
      (((chunks config.maxDeal records).map (absentCommand g.dialect e config.skip checked)).take k)
        = some (addedByChunks g e config.skip checked fill tables
          ((placed 0 (chunks config.maxDeal records)).take k)) := by
    rw [← List.map_take, insertAll_absentCommands he hfill, take_placed]
    rfl
  refine ⟨hrun, ?_, fun hone => ?_⟩
  · rw [← addedEach_eq_iff_apartIn]
    exact forall_congr' fun k => by rw [hrun, Option.some_inj, eq_comm]
  · refine apart_of_pairwise fun xs hxs => ?_
    obtain ⟨chunk, hchunk, hlength⟩ := exists_of_mem_placed hxs
    have hle : xs.length ≤ 1 := by
      rw [hlength, ← hone]
      exact length_le_of_mem_chunks (by omega) hchunk
    match xs, hle with
    | [], _ => exact .nil
    | [x], _ => exact List.pairwise_singleton _ x

/-- Two lines of an order that are gifts. -/
def giftLines : List Record :=
  [[("line", .int 1), ("note", .string "gift"), ("order_id", .int 7)],
    [("line", .int 2), ("note", .string "gift"), ("order_id", .int 7)]]

/-- What a table of order lines fills in. -/
def lineFilling : Filling where
  omitted c := if c = "amount" then .int 1 else .null
  generated _ _ := .null

lemma declares_lineFilling (equal : Json → Json → Bool) :
    Declares ⟨.mysql, equal⟩ orderLine lineFilling := by
  intro f hf
  simp only [orderLine, orderLineDecl, List.map_cons, List.map_nil, List.mem_cons,
    List.not_mem_nil, or_false] at hf
  rcases hf with rfl | rfl | rfl | rfl <;> rfl

/-- One gift is added if the lines are inserted for an order without gifts one after the other. -/
lemma length_addedEach_giftLines :
    (addedEach ⟨.mysql, fun a b => a == b⟩ orderLine .standard [orderLine.fields[3]] lineFilling
      (fun _ => []) giftLines.zipIdx orderLine.table.parts).length = 1 := by
  rw [addedEach, Function.update_self]
  decide +kernel

/-- Gift lines that are inserted each by a statement of its own become one gift. -/
theorem absent_rows_by_chunks_gift :
    orderLineDecl.build = .ok orderLine ∧ ∃ statements cs tables,
      (insert orderLine giftLines .ifNotExists (some ["note"])
        { Config.standard with maxDeal := 1 } fun _ => "0").value = .ok statements ∧
      List.Forall₂ (fun s c => readStatement .mysql s = some c) statements cs ∧
      Engine.insertAll ⟨.mysql, fun a b => a == b⟩ lineFilling 0 (fun _ => []) cs = some tables ∧
      (tables orderLine.table.parts).length = 1 := by
  have hchunks : chunks 1 giftLines = [[giftLines[0]], [giftLines[1]]] := by
    simp [chunks, giftLines]
  have hplan : ∃ steps, insertPlan orderLine giftLines .ifNotExists (some ["note"])
      { Config.standard with maxDeal := 1 } (fun _ => "0") = .ok steps := by
    unfold insertPlan
    rw [hchunks]
    exact ⟨_, rfl⟩
  obtain ⟨steps, hplan⟩ := hplan
  have hinsert : (insert orderLine giftLines .ifNotExists (some ["note"])
      { Config.standard with maxDeal := 1 } fun _ => "0").value
        = .ok (steps.map (Step.build .mysql)) := by
    rw [insert, hplan]
    rfl
  obtain ⟨checked, cs, hchecked, hread, byChunks, rfl, hflatten, hlength, hrun⟩ :=
    absent_rows_by_chunks build_orderLine hinsert
  obtain rfl : [orderLine.fields[3]] = checked := Except.ok.inj (hchecked (List.cons_ne_nil _ _))
  obtain ⟨-, heach, hone⟩ := hrun ⟨.mysql, fun a b => a == b⟩ rfl lineFilling
    (declares_lineFilling _) fun _ => []
  have hall := heach.mpr (hone rfl) cs.length
  rw [List.take_length, hlength, List.take_length, hflatten] at hall
  exact ⟨build_orderLine, _, cs, _, hinsert, hread, hall, length_addedEach_giftLines⟩

/-- Gift lines that are inserted by one statement are both added, though the first of them is a gift
when the second one is looked up. -/
theorem chunk_adds_both_gifts :
    orderLineDecl.build = .ok orderLine ∧ ∃ s c tables,
      (insert orderLine giftLines .ifNotExists (some ["note"]) .standard fun _ => "0").value
        = .ok [s] ∧
      readStatement .mysql s = some c ∧
      Engine.insertAll ⟨.mysql, fun a b => a == b⟩ lineFilling 0 (fun _ => []) [c] = some tables ∧
      (tables orderLine.table.parts).length = 2 ∧
      (addedEach ⟨.mysql, fun a b => a == b⟩ orderLine .standard [orderLine.fields[3]] lineFilling
        (fun _ => []) giftLines.zipIdx orderLine.table.parts).length = 1 := by
  have he := accepted_of_build build_orderLine
  have hchunks : chunks Config.standard.maxDeal giftLines = [giftLines] := by
    simp [chunks, giftLines, Config.standard]
  have hplan : insertPlan orderLine giftLines .ifNotExists (some ["note"]) .standard (fun _ => "0")
      = .ok [absentStep orderLine .standard [orderLine.fields[3]] giftLines] := by
    unfold insertPlan
    rw [hchunks]
    rfl
  have hinsert : (insert orderLine giftLines .ifNotExists (some ["note"]) .standard
      fun _ => "0").value
        = .ok [(absentStep orderLine .standard [orderLine.fields[3]] giftLines).build .mysql] := by
    rw [insert, hplan]
    rfl
  have hread : Reads .mysql (absentStep orderLine .standard [orderLine.fields[3]] giftLines)
      (absentCommand .mysql orderLine .standard [orderLine.fields[3]] giftLines) :=
    reads_absentStep he ⟨List.cons_ne_nil _ _, by simp⟩ (List.cons_ne_nil _ _)
      (List.cons_ne_nil _ _)
  refine ⟨build_orderLine, _, _, _, hinsert, hread, insertAll_absentCommands he
    (declares_lineFilling fun a b => a == b) [giftLines] 0 fun _ => [], ?_,
    length_addedEach_giftLines⟩
  rw [Function.update_self]
  decide +kernel

end Batch

end QueryLoom

import Mathlib.Data.List.Pairwise
import QueryLoom.Proofs.UpdateEffect

/-!
# The outcome of an update

If all records have different keys, an update sets exactly the cells for which its records have
values, in whatever chunks they are sent. If records share a key, the chunks decide which of them
counts.
-/

namespace QueryLoom.Batch

open Dml

variable {d : Dialect} {e : Entity} {policy : SkipPolicy} {records : List Record}

/-! ### Different keys -/

/-- Whether two records have the same key. -/
def sameKey (e : Entity) (r r' : Record) : Bool :=
  e.primaryKeys.all fun f => (r.get? f.name).getD .null == (r'.get? f.name).getD .null

/-- A statement addresses a row. -/
def Addresses (g : Engine) (statement : Statement) (row : TableRow) : Prop :=
  ∃ action table scope as, readStatement g.dialect statement = some (.change action table scope) ∧
    Engine.alternatives (fun _ => none) scope = some as ∧ g.addressed row as = true

/-- Rows are revised by records: each record sets the fields outside of the key that it has values
for, in the rows with its key. -/
structure Revises (d : Dialect) (e : Entity) (policy : SkipPolicy) (records : List Record)
    (revise : TableRow → TableRow) : Prop where
  changed : ∀ row, ∀ r ∈ records, hasKey d e row r = true →
    ∀ f ∈ e.fields, f.primaryKey = false → ∀ v, changedValue? policy r f = some v →
      revise row (columnName d f.part) = v
  unchanged : ∀ row c, (∀ r ∈ records, hasKey d e row r = true →
    ∀ f ∈ e.fields, f.primaryKey = false → (changedValue? policy r f).isSome = true →
      columnName d f.part ≠ c) → revise row c = row c

lemma sameKey_of_hasKey {row : TableRow} {r r' : Record} (h : hasKey d e row r = true)
    (h' : hasKey d e row r' = true) : sameKey e r r' = true := by
  rw [hasKey, List.all_eq_true] at h h'
  rw [sameKey, List.all_eq_true]
  exact fun f hf => Json.beq_trans (Json.beq_symm (h f hf)) (h' f hf)

lemma sameKey_symm {r r' : Record} (h : sameKey e r r' = true) : sameKey e r' r = true := by
  rw [sameKey, List.all_eq_true] at h ⊢
  exact fun f hf => Json.beq_symm (h f hf)

/-- A row has the key of one record at most. -/
lemma eq_of_hasKey (hkeys : records.Pairwise fun r r' => sameKey e r r' = false) {row : TableRow}
    {r r' : Record} (hr : r ∈ records) (hr' : r' ∈ records) (h : hasKey d e row r = true)
    (h' : hasKey d e row r' = true) : r = r' := by
  by_contra hne
  have : Std.Symm fun r r' => sameKey e r r' = false := by
    refine ⟨fun x y hxy => ?_⟩
    rw [Bool.eq_false_iff] at hxy ⊢
    exact fun hyx => hxy (sameKey_symm hyx)
  have hdifferent := hkeys.forall hr hr' hne
  rw [sameKey_of_hasKey h h'] at hdifferent
  cases hdifferent

/-- A row after an update in chunks of `size` records. -/
def settled (d : Dialect) (e : Entity) (policy : SkipPolicy) (size : Nat) (records : List Record)
    (row : TableRow) : TableRow :=
  withValues d e (lastGiven? d e policy row (chunks size records)) row

lemma revises_settled (he : Accepted e) {size : Nat}
    (hkeys : records.Pairwise fun r r' => sameKey e r r' = false) :
    Revises d e policy records (settled d e policy size records) where
  changed row r hr hkey f hf hfkey v hv := by
    have hgiven := @lastGiven?_isSome d e policy r records row f size hr hkey (by simp [hv])
    obtain ⟨w, hw⟩ := Option.isSome_iff_exists.mp hgiven
    obtain ⟨r', hr', hkey', hw'⟩ := mem_of_lastGiven? hw
    obtain rfl := eq_of_hasKey hkeys hr hr' hkey hkey'
    rw [settled, withValues, (changeable?_eq_some he).mpr ⟨hf, hfkey, rfl⟩]
    simpa [hw, hv] using hw'.symm
  unchanged row c hnone := by
    rw [settled, withValues]
    split
    · next f hfind =>
      obtain ⟨hf, hfkey, hc⟩ := (changeable?_eq_some he).mp hfind
      cases hgiven : lastGiven? d e policy row (chunks size records) f with
      | none => rfl
      | some v =>
        obtain ⟨r, hr, hkey, hv⟩ := mem_of_lastGiven? hgiven
        exact absurd hc (hnone r hr hkey f hf hfkey (by simp [hv]))
    · rfl

/-- The revision by some records is determined by them. -/
lemma Revises.eq {revise revise' : TableRow → TableRow} (h : Revises d e policy records revise)
    (h' : Revises d e policy records revise') : revise = revise' := by
  funext row c
  by_cases hset : ∃ r ∈ records, hasKey d e row r = true ∧ ∃ f ∈ e.fields,
    f.primaryKey = false ∧ (changedValue? policy r f).isSome = true ∧ columnName d f.part = c
  · obtain ⟨r, hr, hrow, f, hf, hfkey, hvalue, rfl⟩ := hset
    obtain ⟨v, hv⟩ := Option.isSome_iff_exists.mp hvalue
    rw [h.changed row r hr hrow f hf hfkey v hv, h'.changed row r hr hrow f hf hfkey v hv]
  · have hnone : ∀ r ∈ records, hasKey d e row r = true → ∀ f ∈ e.fields, f.primaryKey = false →
        (changedValue? policy r f).isSome = true → columnName d f.part ≠ c :=
      fun r hr hrow f hf hfkey hvalue hc => hset ⟨r, hr, hrow, f, hf, hfkey, hvalue, hc⟩
    rw [h.unchanged row c hnone, h'.unchanged row c hnone]

lemma addresses_update {chunk : List Record} (hkey : e.primaryKeys ≠ [])
    (hchunk : ∀ r ∈ chunk, IsKeyed e r) {statement : Statement}
    (hread : readStatement d statement = some (updateCommand e policy chunk)) {row : TableRow} :
    Addresses (dataEngine d) statement row ↔
      ∃ r ∈ changing e policy chunk, hasKey d e row r = true := by
  obtain ⟨as, has, haddressed⟩ := @addressed_keyScope e (changing e policy chunk) d hkey
    (fun r hr => hchunk r (mem_changing.mp hr).1) fun _ => none
  rw [← haddressed row]
  constructor
  · rintro ⟨action, table, scope, as', hread', has', h⟩
    have hcommand := Option.some.inj (hread.symm.trans hread')
    rw [updateCommand] at hcommand
    cases hcommand
    cases has.symm.trans has'
    exact h
  · intro h
    exact ⟨_, _, _, as, hread, has, h⟩

lemma mem_updateSteps {size : Nat} {step : Step} : step ∈ updateSteps e policy size records ↔
    ∃ chunk ∈ chunks size records,
      changing e policy chunk ≠ [] ∧ chunkStep e policy chunk = step := by
  simp only [updateSteps, List.mem_flatMap, stepsOf_changesOf]
  refine exists_congr fun chunk => and_congr_right fun _ => ?_
  split_ifs with hnone
  · rw [List.isEmpty_iff] at hnone
    simp [hnone]
  · rw [List.isEmpty_iff] at hnone
    simp [hnone, eq_comm]

/-- The rows that an update addresses are those with the key of a record that changes something. -/
lemma addresses_updateSteps (he : Accepted e) (hkey : e.primaryKeys ≠ [])
    (hrecords : ∀ r ∈ records, IsKeyed e r) {size : Nat} {row : TableRow} :
    (∃ statement ∈ (updateSteps e policy size records).map (Step.build d),
      Addresses (dataEngine d) statement row) ↔
      ∃ r ∈ records, hasKey d e row r = true ∧
        ∃ f ∈ e.fields, f.primaryKey = false ∧ (changedValue? policy r f).isSome = true := by
  have hkeyed := @forall_mem_chunks _ (IsKeyed e) size records |>.mpr hrecords
  simp only [List.mem_map, exists_exists_and_eq_and, mem_updateSteps, ← sets_ne_nil]
  constructor
  · rintro ⟨_, ⟨chunk, hchunk, hne, rfl⟩, h⟩
    obtain ⟨r, hr, hrow⟩ := (addresses_update hkey (hkeyed chunk hchunk)
      (readStatement_update he hkey hne)).mp h
    obtain ⟨hr, hsets⟩ := mem_changing.mp hr
    refine ⟨r, ?_, hrow, hsets⟩
    rw [← flatten_chunks size records]
    exact List.mem_flatten_of_mem hchunk hr
  · rintro ⟨r, hr, hrow, hsets⟩
    rw [← flatten_chunks size records] at hr
    obtain ⟨chunk, hchunk, hr⟩ := List.mem_flatten.mp hr
    have hmem : r ∈ changing e policy chunk := mem_changing.mpr ⟨hr, hsets⟩
    have hne : changing e policy chunk ≠ [] := List.ne_nil_of_mem hmem
    refine ⟨_, ⟨chunk, hchunk, hne, rfl⟩, ?_⟩
    exact (addresses_update hkey (hkeyed chunk hchunk) (readStatement_update he hkey hne)).mpr
      ⟨r, hmem, hrow⟩

/-- With different keys, the statements of an update set exactly the cells that the records have
values for, and address only rows in which something is set. The chunks are not visible in what they
do to the tables. -/
theorem update_sets_cells {decl : EntityDecl} (hdecl : decl.build = .ok e) {config : Config}
    {statements : List Statement} (h : (update e records config).value = .ok statements)
    (hkeys : records.Pairwise fun r r' => sameKey e r r' = false) :
    ∃ revise, Revises config.dialect e config.skip records revise ∧
      (∀ s, (dataEngine config.dialect).runStatements statements s
        = some (s.mapRows e.table.parts revise)) ∧
      (∀ row, (∃ statement ∈ statements, Addresses (dataEngine config.dialect) statement row) ↔
        ∃ r ∈ records, hasKey config.dialect e row r = true ∧ ∃ f ∈ e.fields,
          f.primaryKey = false ∧ (changedValue? config.skip r f).isSome = true) ∧
      ∀ size, size ≠ 0 → ∃ others,
        (update e records { config with maxDeal := size }).value = .ok others ∧
          ∀ s, (dataEngine config.dialect).runStatements others s
            = (dataEngine config.dialect).runStatements statements s := by
  have he := accepted_of_build hdecl
  obtain ⟨⟨hsize, hkey, hkeyed⟩, hstatements⟩ := update_eq_ok.mp h
  refine ⟨settled config.dialect e config.skip config.maxDeal records, revises_settled he hkeys,
    runStatements_update he h, fun row => ?_, fun size hsize => ?_⟩
  · rw [hstatements]
    exact addresses_updateSteps he hkey hkeyed
  · have hothers := (@update_eq_ok e records { config with maxDeal := size } _).mpr
      ⟨⟨hsize, hkey, hkeyed⟩, rfl⟩
    refine ⟨_, hothers, fun s => ?_⟩
    have hsame := (@revises_settled config.dialect e config.skip records he size hkeys)
      |>.eq (@revises_settled config.dialect e config.skip records he config.maxDeal hkeys)
    rw [runStatements_update he h, runStatements_update he hothers]
    exact congrArg (fun revise => some (s.mapRows e.table.parts revise)) hsame

/-- Changes of two lines of an order. -/
def lineChanges : List Record :=
  [[("amount", .int 5), ("line", .int 1), ("order_id", .int 7)],
    [("line", .int 2), ("note", .string "gift"), ("order_id", .int 7)]]

lemma isKeyed_lineChanges : ∀ r ∈ lineChanges, IsKeyed orderLine r := by
  unfold IsKeyed
  decide

/-- One line of an order gets its new amount and keeps its note, though both changes belong to one
statement. -/
theorem update_sets_cells_order_lines :
    orderLineDecl.build = .ok orderLine ∧
      (lineChanges.Pairwise fun r r' => sameKey orderLine r r' = false) ∧
      ∃ statements, (update orderLine lineChanges .standard).value = .ok statements ∧
        ∃ revise, (∀ s, (dataEngine .mysql).runStatements statements s
            = some (s.mapRows [.plain "order_line"] revise)) ∧
          ∀ row, row "order_id" = .int 7 → row "line" = .int 1 →
            revise row "amount" = .int 5 ∧ revise row "note" = row "note" := by
  have hkeys : lineChanges.Pairwise fun r r' => sameKey orderLine r r' = false := by decide
  have hupdate := (@update_eq_ok orderLine lineChanges .standard _).mpr
    ⟨⟨by decide, by decide, isKeyed_lineChanges⟩, rfl⟩
  refine ⟨build_orderLine, hkeys, _, hupdate, ?_⟩
  obtain ⟨revise, hrevise, hrun, -⟩ := update_sets_cells build_orderLine hupdate hkeys
  refine ⟨revise, hrun, fun row horder hline => ⟨?_, ?_⟩⟩
  · have hfirst : hasKey .mysql orderLine row lineChanges[0] = true := by
      change ((row "order_id" == .int 7) && ((row "line" == .int 1) && true)) = true
      rw [horder, hline]
      decide
    have hamount : columnName .mysql orderLine.fields[2].part = "amount" := by decide
    rw [← hamount]
    exact hrevise.changed row _ (List.getElem_mem (by decide)) hfirst orderLine.fields[2]
      (List.getElem_mem (by decide)) rfl (.int 5) rfl
  · have hother : hasKey .mysql orderLine row lineChanges[1] = false := by
      change ((row "order_id" == .int 7) && ((row "line" == .int 2) && true)) = false
      rw [horder, hline]
      decide
    have hset : ∀ f ∈ orderLine.fields, (changedValue? .standard lineChanges[0] f).isSome = true →
        f.primaryKey = false → columnName .mysql f.part ≠ "note" := by
      decide
    refine hrevise.unchanged row "note" fun r hr hkey f hf hfkey hvalue => ?_
    rcases List.mem_pair.mp hr with rfl | rfl
    · exact hset f hf hvalue hfkey
    · cases hkey.symm.trans hother

/-! ### Repeated keys -/

/-- Two ways of cutting records into chunks settle a row alike. -/
def SettleAlike (d : Dialect) (e : Entity) (policy : SkipPolicy) (records : List Record)
    (size size' : Nat) : Prop :=
  ∀ row, ∀ f ∈ e.fields, f.primaryKey = false →
    lastGiven? d e policy row (chunks size records) f
      = lastGiven? d e policy row (chunks size' records) f

/-- Records with the same key do not give a field different values. -/
def Consistent (e : Entity) (policy : SkipPolicy) (records : List Record) : Prop :=
  ∀ r ∈ records, ∀ r' ∈ records, sameKey e r r' = true → ∀ f ∈ e.fields, f.primaryKey = false →
    ∀ v v', changedValue? policy r f = some v → changedValue? policy r' f = some v' → v = v'

lemma settled_eq_iff (he : Accepted e) {size size' : Nat} :
    settled d e policy size records = settled d e policy size' records ↔
      SettleAlike d e policy records size size' := by
  constructor
  · intro h row f hf hkey
    have hcell := congrFun (congrFun h row) (columnName d f.part)
    rw [settled, settled, withValues, withValues,
      (changeable?_eq_some he).mpr ⟨hf, hkey, rfl⟩] at hcell
    -- A field is given a value in chunks of one size exactly if it is in chunks of another one.
    have hgiven {n n' : Nat} {v : Json}
        (h : lastGiven? d e policy row (chunks n records) f = some v) :
        (lastGiven? d e policy row (chunks n' records) f).isSome = true := by
      obtain ⟨r, hr, hrow, hvalue⟩ := mem_of_lastGiven? h
      exact lastGiven?_isSome hr hrow (by simp [hvalue])
    cases hlast : lastGiven? d e policy row (chunks size records) f with
    | some v =>
      obtain ⟨w, hw⟩ := Option.isSome_iff_exists.mp (@hgiven size size' v hlast)
      simpa [hlast, hw] using hcell
    | none =>
      cases hlast' : lastGiven? d e policy row (chunks size' records) f with
      | none => rfl
      | some w => simpa [hlast] using @hgiven size' size w hlast'
  · intro h
    funext row c
    rw [settled, settled, withValues, withValues]
    split
    · next f hfind =>
      obtain ⟨hf, hkey, -⟩ := (changeable?_eq_some he).mp hfind
      rw [h row f hf hkey]
    · rfl

lemma Consistent.settleAlike (h : Consistent e policy records) (size size' : Nat) :
    SettleAlike d e policy records size size' := by
  intro row f hf hkey
  cases hlast : lastGiven? d e policy row (chunks size records) f with
  | some v =>
    obtain ⟨r, hr, hrow, hv⟩ := mem_of_lastGiven? hlast
    have hgiven := @lastGiven?_isSome d e policy r records row f size' hr hrow (by simp [hv])
    obtain ⟨w, hw⟩ := Option.isSome_iff_exists.mp hgiven
    obtain ⟨r', hr', hrow', hw'⟩ := mem_of_lastGiven? hw
    rw [hw, h r hr r' hr' (sameKey_of_hasKey hrow hrow') f hf hkey v w hv hw']
  | none =>
    cases hlast' : lastGiven? d e policy row (chunks size' records) f with
    | none => rfl
    | some w =>
      obtain ⟨r, hr, hrow, hw⟩ := mem_of_lastGiven? hlast'
      have hgiven := @lastGiven?_isSome d e policy r records row f size hr hrow (by simp [hw])
      simp [hlast] at hgiven

/-- Two runs that revise the rows of a table leave the same tables everywhere exactly if the
revisions are the same. -/
lemma mapRows_eq_iff {table : List IdentPart} {revise revise' : TableRow → TableRow} :
    (∀ s : Store, s.mapRows table revise = s.mapRows table revise') ↔ revise = revise' := by
  constructor
  · intro h
    funext row
    have hrow := h ⟨fun _ => [row], fun _ => none⟩
    have htable := congrFun (congrArg Store.tables hrow) table
    simpa [Store.mapRows] using htable
  · rintro rfl s
    rfl

/-- Where keys repeat, a cell gets the first value that the last chunk with one has for it. So the
chunks are visible exactly if they make a difference there, which they never do if records with the
same key agree. -/
theorem update_repeated_keys {decl : EntityDecl} (hdecl : decl.build = .ok e) {config : Config}
    {statements : List Statement} (h : (update e records config).value = .ok statements)
    {size : Nat} (hsize : size ≠ 0) :
    ∃ others, (update e records { config with maxDeal := size }).value = .ok others ∧
      (∀ s, (dataEngine config.dialect).runStatements statements s
        = some (s.mapRows e.table.parts
            (settled config.dialect e config.skip config.maxDeal records))) ∧
      (∀ s, (dataEngine config.dialect).runStatements others s
        = some (s.mapRows e.table.parts (settled config.dialect e config.skip size records))) ∧
      ((∀ s, (dataEngine config.dialect).runStatements statements s
          = (dataEngine config.dialect).runStatements others s) ↔
        SettleAlike config.dialect e config.skip records config.maxDeal size) ∧
      (Consistent e config.skip records →
        ∀ s, (dataEngine config.dialect).runStatements statements s
          = (dataEngine config.dialect).runStatements others s) := by
  have he := accepted_of_build hdecl
  obtain ⟨⟨-, hkey, hkeyed⟩, -⟩ := update_eq_ok.mp h
  have hothers := (@update_eq_ok e records { config with maxDeal := size } _).mpr
    ⟨⟨hsize, hkey, hkeyed⟩, rfl⟩
  have hrun := runStatements_update he h
  have hrun' := runStatements_update he hothers
  have hsame : (∀ s, (dataEngine config.dialect).runStatements statements s
      = (dataEngine config.dialect).runStatements ((updateSteps e config.skip size records).map
          (Step.build config.dialect)) s) ↔
      SettleAlike config.dialect e config.skip records config.maxDeal size := by
    rw [← settled_eq_iff he, ← @mapRows_eq_iff e.table.parts]
    refine forall_congr' fun s => ?_
    rw [hrun s, hrun' s]
    exact Option.some_inj
  exact ⟨_, hothers, hrun, hrun', hsame, fun hagree =>
    hsame.mpr (hagree.settleAlike config.maxDeal size)⟩

/-- Two changes of the same line of an order. -/
def repeatedLine : List Record :=
  [[("line", .int 1), ("note", .string "a"), ("order_id", .int 7)],
    [("line", .int 1), ("note", .string "b"), ("order_id", .int 7)]]

/-- The row of that line. -/
def lineRow : TableRow := fun c =>
  if c = "order_id" then .int 7 else if c = "line" then .int 1 else .null

lemma isKeyed_repeatedLine : ∀ r ∈ repeatedLine, IsKeyed orderLine r := by
  unfold IsKeyed
  decide

lemma settled_repeatedLine :
    settled .mysql orderLine .standard 1 repeatedLine lineRow "note" = .string "b" ∧
      settled .mysql orderLine .standard 2 repeatedLine lineRow "note" = .string "a" := by
  have hone : chunks 1 repeatedLine = [[repeatedLine[0]], [repeatedLine[1]]] := by
    simp [chunks, repeatedLine]
  have htwo : chunks 2 repeatedLine = [repeatedLine] := by
    simp [chunks, repeatedLine]
  rw [settled, settled, hone, htwo]
  exact ⟨rfl, rfl⟩

/-- Two changes of a line leave the later value if each has its own statement, and the earlier one
if they share it. -/
theorem chunks_decide_repeated_line :
    orderLineDecl.build = .ok orderLine ∧ ∃ one two,
      (update orderLine repeatedLine { Config.standard with maxDeal := 1 }).value = .ok one ∧
      (update orderLine repeatedLine { Config.standard with maxDeal := 2 }).value = .ok two ∧
      ∃ s, (dataEngine .mysql).runStatements one s ≠ (dataEngine .mysql).runStatements two s := by
  have hone := (@update_eq_ok orderLine repeatedLine { Config.standard with maxDeal := 1 } _).mpr
    ⟨⟨by decide, by decide, isKeyed_repeatedLine⟩, rfl⟩
  have htwo := (@update_eq_ok orderLine repeatedLine { Config.standard with maxDeal := 2 } _).mpr
    ⟨⟨by decide, by decide, isKeyed_repeatedLine⟩, rfl⟩
  have he := accepted_of_build build_orderLine
  refine ⟨build_orderLine, _, _, hone, htwo, ⟨fun _ => [lineRow], fun _ => none⟩, fun hsame => ?_⟩
  have htables := (runStatements_update he hone _).symm.trans
    (hsame.trans (runStatements_update he htwo _))
  have hrows := congrFun (congrArg Store.tables (Option.some.inj htables)) orderLine.table.parts
  simp only [Store.mapRows, Function.update_self, List.map_cons, List.map_nil] at hrows
  have hnote := congrFun (List.cons.inj hrows).1 "note"
  obtain ⟨hb, ha⟩ := settled_repeatedLine
  have hab : Json.string "b" = .string "a" := hb.symm.trans (hnote.trans ha)
  simp at hab

/-- Two changes of a line that set different columns. -/
def splitLine : List Record :=
  [[("amount", .int 5), ("line", .int 1), ("order_id", .int 7)],
    [("line", .int 1), ("note", .string "gift"), ("order_id", .int 7)]]

lemma isKeyed_splitLine : ∀ r ∈ splitLine, IsKeyed orderLine r := by
  unfold IsKeyed
  decide

lemma consistent_splitLine : Consistent orderLine .standard splitLine := by
  have hone : ∀ f ∈ orderLine.fields, f.primaryKey = false →
      (changedValue? .standard splitLine[0] f).isSome = true →
        (changedValue? .standard splitLine[1] f).isSome = false := by
    decide
  intro r hr r' hr' _ f hf hkey v v' hv hv'
  rcases List.mem_pair.mp hr with rfl | rfl <;> rcases List.mem_pair.mp hr' with rfl | rfl
  · exact Option.some.inj (hv.symm.trans hv')
  · simpa [splitLine, hv'] using hone f hf hkey (by simp [splitLine, hv])
  · simpa [splitLine, hv] using hone f hf hkey (by simp [splitLine, hv'])
  · exact Option.some.inj (hv.symm.trans hv')

/-- Changes of a line that set different columns may share a statement or not. -/
theorem update_repeated_keys_split_line :
    orderLineDecl.build = .ok orderLine ∧ 1 ≠ 0 ∧ Consistent orderLine .standard splitLine ∧
      ∃ two one,
        (update orderLine splitLine { Config.standard with maxDeal := 2 }).value = .ok two ∧
        (update orderLine splitLine { Config.standard with maxDeal := 1 }).value = .ok one ∧
        ∀ s, (dataEngine .mysql).runStatements two s = (dataEngine .mysql).runStatements one s := by
  have htwo := (@update_eq_ok orderLine splitLine { Config.standard with maxDeal := 2 } _).mpr
    ⟨⟨by decide, by decide, isKeyed_splitLine⟩, rfl⟩
  obtain ⟨one, hone, -, -, -, hsame⟩ := update_repeated_keys build_orderLine htwo Nat.one_ne_zero
  exact ⟨build_orderLine, Nat.one_ne_zero, consistent_splitLine, _, one, htwo, hone,
    hsame consistent_splitLine⟩

end QueryLoom.Batch

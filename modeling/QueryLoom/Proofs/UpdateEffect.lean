import QueryLoom.Proofs.ChunkRevision

/-!
# What an update does

The statements of an update, run one after the other, change nothing but the rows of the entity's
table. Where all records have different keys it does not matter how they are cut into chunks.
-/

namespace QueryLoom.Batch

open Dml

section

variable {d : Dialect} {e : Entity} {policy : SkipPolicy} {r : Record} {records : List Record}
  {row : TableRow} {f : Field}

/-! ### One statement -/

/-- The records that change something. -/
def changing (e : Entity) (policy : SkipPolicy) (records : List Record) : List Record :=
  records.filter fun r => !(changeOf e policy r).sets.isEmpty

lemma changesOf_eq (e : Entity) (policy : SkipPolicy) (records : List Record) :
    changesOf e policy records = (changing e policy records).map (changeOf e policy) := by
  rw [changesOf, List.filter_map]
  rfl

lemma mem_changing : r ∈ changing e policy records ↔
    r ∈ records ∧ (changeOf e policy r).sets ≠ [] := by
  simp [changing, List.mem_filter]

/-- The step for the changes of some records. -/
def chunkStep (e : Entity) (policy : SkipPolicy) (records : List Record) : Step :=
  .update e ((changedFields e (changesOf e policy records)).map
      (assignmentOf (changesOf e policy records)))
    ((changing e policy records).map (matchesOf e.primaryKeys))

lemma stepsOf_changesOf (e : Entity) (policy : SkipPolicy) (records : List Record) :
    stepsOf e (changesOf e policy records)
      = if (changing e policy records).isEmpty then [] else [chunkStep e policy records] := by
  have hrows : (changesOf e policy records).map (·.key)
      = (changing e policy records).map (matchesOf e.primaryKeys) := by
    rw [changesOf_eq, List.map_map]
    rfl
  have hempty : (changesOf e policy records).isEmpty = (changing e policy records).isEmpty := by
    rw [changesOf_eq, List.isEmpty_map]
  rw [stepsOf, hrows, hempty]
  rfl

/-- The statement for the changes of some records, as a tree. -/
def updateCommand (e : Entity) (policy : SkipPolicy) (records : List Record) : Command :=
  .change (.set (chunkSettings e policy records)) e.table.parts
    (keyScope e.primaryKeys ((changing e policy records).map (matchesOf e.primaryKeys)))

lemma legibleMatches_matchesOf (he : Accepted e) {fields : List Field}
    (hfields : ∀ f ∈ fields, f ∈ e.fields) (r : Record) : LegibleMatches (matchesOf fields r) := by
  intro m hm
  obtain ⟨f, hf, rfl⟩ := List.mem_map.mp hm
  exact he.legible.fields f (hfields f hf)

lemma readStatement_update (he : Accepted e) (hkey : e.primaryKeys ≠ [])
    (hne : changing e policy records ≠ []) :
    readStatement d ((chunkStep e policy records).build d)
      = some (updateCommand e policy records) := by
  have hlegible (r : Record) : matchesOf e.primaryKeys r ≠ [] ∧
      LegibleMatches (matchesOf e.primaryKeys r) :=
    ⟨by simpa [matchesOf] using hkey,
      legibleMatches_matchesOf he (fun f hf => List.mem_of_mem_filter hf) r⟩
  have hassignments : (changedFields e (changesOf e policy records)).map
      (assignmentOf (changesOf e policy records)) ≠ [] := by
    obtain ⟨r, hr⟩ := List.exists_mem_of_ne_nil _ hne
    obtain ⟨hr, hsets⟩ := mem_changing.mp hr
    obtain ⟨f, hf, hfkey, hvalue⟩ := sets_ne_nil.mp hsets
    have hmem := (mem_changedFields he).mpr ⟨hf, hfkey, r, hr, hvalue⟩
    simpa using List.ne_nil_of_mem hmem
  have hlegibleAssignments : ∀ a ∈ (changedFields e (changesOf e policy records)).map
      (assignmentOf (changesOf e policy records)), LegibleAssignment a := by
    intro a ha
    obtain ⟨f, hf, rfl⟩ := List.mem_map.mp ha
    obtain ⟨hf, hfkey, -⟩ := (mem_changedFields he).mp hf
    refine ⟨he.legible.fields f hf, fun arm harm => ?_⟩
    rw [arms_eq he hf hfkey] at harm
    obtain ⟨r, -, hr⟩ := List.mem_filterMap.mp harm
    obtain ⟨v, -, rfl⟩ := Option.map_eq_some_iff.mp hr
    exact hlegible r
  have hrowsne : (changing e policy records).map (matchesOf e.primaryKeys) ≠ [] := by
    simpa using hne
  have hlegibleRows : ∀ row ∈ (changing e policy records).map (matchesOf e.primaryKeys),
      row ≠ [] ∧ LegibleMatches row := by
    intro row hrow
    obtain ⟨r, -, rfl⟩ := List.mem_map.mp hrow
    exact hlegible r
  have hread := readsAs_update (d := d) he.legible hassignments hlegibleAssignments hrowsne
    hlegibleRows
  rw [List.map_map] at hread
  exact hread.readWith (by decide)

lemma run_updateCommand (he : Accepted e) (hkey : e.primaryKeys ≠ [])
    (hrecords : ∀ r ∈ records, IsKeyed e r) (s : Store) :
    (dataEngine d).run s (updateCommand e policy records)
      = some (s.mapRows e.table.parts (revise d e policy records)) := by
  obtain ⟨as, has, haddressed⟩ := @addressed_keyScope e (changing e policy records) d hkey
    (fun r hr => hrecords r (mem_changing.mp hr).1) s.temps
  have hchange (row : TableRow) :
      (dataEngine d).change (.set (chunkSettings e policy records)) as row
        = some (revise d e policy records row) := by
    unfold Engine.change
    split_ifs with hrow
    · rw [Engine.act, assign_eq_revise he hrecords]
    · refine congrArg some (revise_eq_self he fun r hr hsets => ?_).symm
      rw [haddressed] at hrow
      simpa using fun h => hrow ⟨r, mem_changing.mpr ⟨hr, hsets⟩, h⟩
  have hrows : (s.tables e.table.parts).filterMap
      ((dataEngine d).change (.set (chunkSettings e policy records)) as)
        = (s.tables e.table.parts).map (revise d e policy records) := by
    rw [← List.filterMap_eq_map]
    exact List.filterMap_congr fun row _ => hchange row
  rw [updateCommand, Engine.run, has, Store.mapRows, ← hrows]
  rfl

/-! ### All statements -/

/-- The statements for one chunk, as trees. -/
def chunkCommands (e : Entity) (policy : SkipPolicy) (records : List Record) : List Command :=
  if (changing e policy records).isEmpty then [] else [updateCommand e policy records]

/-- A row after the statements of all chunks. -/
def reviseAll (d : Dialect) (e : Entity) (policy : SkipPolicy) (chunks : List (List Record))
    (row : TableRow) : TableRow :=
  chunks.foldl (fun row records => revise d e policy records row) row

lemma readStatements_stepsOf (he : Accepted e) (hkey : e.primaryKeys ≠ []) :
    List.Forall₂ (fun statement c => readStatement d statement = some c)
      ((stepsOf e (changesOf e policy records)).map (Step.build d))
      (chunkCommands e policy records) := by
  rw [stepsOf_changesOf, chunkCommands]
  split_ifs with hnone
  · exact .nil
  · exact .cons (readStatement_update he hkey (by simpa using hnone)) .nil

lemma runAll_chunkCommands (he : Accepted e) (hkey : e.primaryKeys ≠ [])
    (hrecords : ∀ r ∈ records, IsKeyed e r) (s : Store) :
    (dataEngine d).runAll (chunkCommands e policy records) s
      = some (s.mapRows e.table.parts (revise d e policy records)) := by
  unfold chunkCommands
  split_ifs with hnone
  · have hrevise : revise d e policy records = id := by
      funext row
      refine revise_eq_self he fun r hr hsets => ?_
      rw [List.isEmpty_iff] at hnone
      simpa [hnone] using mem_changing.mpr ⟨hr, hsets⟩
    rw [hrevise, Store.mapRows_id]
    rfl
  · rw [Engine.runAll, List.foldlM_cons, run_updateCommand he hkey hrecords]
    rfl

lemma runAll_flatMap (he : Accepted e) (hkey : e.primaryKeys ≠ []) {chunks : List (List Record)}
    (hrecords : ∀ chunk ∈ chunks, ∀ r ∈ chunk, IsKeyed e r) (s : Store) :
    (dataEngine d).runAll (chunks.flatMap (chunkCommands e policy)) s
      = some (s.mapRows e.table.parts (reviseAll d e policy chunks)) := by
  induction chunks generalizing s with
  | nil => exact congrArg some (s.mapRows_id e.table.parts).symm
  | cons chunk chunks ih =>
    have hchunk := hrecords chunk List.mem_cons_self
    have hchunks := ih fun c hc => hrecords c (List.mem_cons_of_mem chunk hc)
    rw [List.flatMap_cons, Engine.runAll_append, runAll_chunkCommands he hkey hchunk,
      Option.bind_some, hchunks, Store.mapRows_mapRows]
    rfl

/-! ### The last chunk decides -/

/-- The first value that the last chunk with one gives a field in a row. -/
def lastGiven? (d : Dialect) (e : Entity) (policy : SkipPolicy) (row : TableRow)
    (chunks : List (List Record)) (f : Field) : Option Json :=
  (chunks.filterMap fun records => firstGiven? d e policy row records f).getLast?

/-- New values leave the key alone. -/
lemma hasKey_withValues (he : Accepted e) (given : Field → Option Json) :
    hasKey d e (withValues d e given row) r = hasKey d e row r := by
  have hkeep : ∀ f ∈ e.primaryKeys, withValues d e given row (columnName d f.part)
      = row (columnName d f.part) := by
    intro f hf
    obtain ⟨hf, hkey⟩ := List.mem_filter.mp hf
    rw [withValues]
    split
    · next g hg =>
      obtain ⟨hg, hgkey, hcolumn⟩ := (changeable?_eq_some he).mp hg
      rw [eq_of_columnName he hg hf hcolumn, hkey] at hgkey
      cases hgkey
    · rfl
  rw [Bool.eq_iff_iff, hasKey, hasKey, List.all_eq_true, List.all_eq_true]
  exact forall₂_congr fun f hf => by rw [hkeep f hf]

lemma firstGiven?_withValues (he : Accepted e) (given : Field → Option Json) :
    firstGiven? d e policy (withValues d e given row) records
      = firstGiven? d e policy row records := by
  funext f
  simp only [firstGiven?, hasKey_withValues he]

lemma withValues_withValues (given given' : Field → Option Json) :
    withValues d e given' (withValues d e given row)
      = withValues d e (fun f => (given' f).or (given f)) row := by
  funext c
  unfold withValues
  cases changeable? d e c with
  | none => rfl
  | some f => cases hgiven : given' f <;> simp [hgiven]

lemma lastGiven?_cons (records : List Record) (chunks : List (List Record)) :
    lastGiven? d e policy row (records :: chunks) f
      = (lastGiven? d e policy row chunks f).or (firstGiven? d e policy row records f) := by
  rw [lastGiven?, lastGiven?, List.filterMap_cons]
  cases firstGiven? d e policy row records f with
  | none => simp
  | some v =>
    rw [List.getLast?_cons]
    cases (List.filterMap (fun records => firstGiven? d e policy row records f) chunks).getLast? <;>
      rfl

lemma reviseAll_eq (he : Accepted e) (chunks : List (List Record)) (row : TableRow) :
    reviseAll d e policy chunks row
      = withValues d e (lastGiven? d e policy row chunks) row := by
  induction chunks generalizing row with
  | nil =>
    funext c
    rw [withValues]
    split <;> rfl
  | cons records chunks ih =>
    have hlast : lastGiven? d e policy (revise d e policy records row) chunks
        = lastGiven? d e policy row chunks := by
      funext f
      simp only [lastGiven?, revise, firstGiven?_withValues he]
    have hcons : lastGiven? d e policy row (records :: chunks) = fun f =>
        (lastGiven? d e policy row chunks f).or (firstGiven? d e policy row records f) :=
      funext fun f => lastGiven?_cons records chunks
    rw [reviseAll, List.foldl_cons]
    change reviseAll d e policy chunks (revise d e policy records row) = _
    rw [ih, hlast, hcons, revise, withValues_withValues]

/-- The statements of an update, run one after the other, give each column of a row outside of the
key the first value in the last chunk that has one, and leave everything else alone. -/
lemma runStatements_update (he : Accepted e) {config : Config} {statements : List Statement}
    (h : (update e records config).value = .ok statements) (s : Store) :
    (dataEngine config.dialect).runStatements statements s
      = some (s.mapRows e.table.parts fun row => withValues config.dialect e
          (lastGiven? config.dialect e config.skip row (chunks config.maxDeal records)) row) := by
  obtain ⟨⟨-, hkey, hkeyed⟩, rfl⟩ := update_eq_ok.mp h
  have hread : List.Forall₂ (fun statement c => readStatement config.dialect statement = some c)
      ((updateSteps e config.skip config.maxDeal records).map (Step.build config.dialect))
      ((chunks config.maxDeal records).flatMap (chunkCommands e config.skip)) := by
    rw [updateSteps, List.map_flatMap]
    exact List.rel_flatMap (List.forall₂_same.mpr fun _ _ => rfl) fun _ _ hchunk => by
      subst hchunk
      exact readStatements_stepsOf he hkey
  have hrun := @runAll_flatMap config.dialect e config.skip he hkey
    (chunks config.maxDeal records) (forall_mem_chunks.mpr hkeyed) s
  rw [Engine.runStatements]
  change (List.mapM (readStatement config.dialect) _).bind _ = _
  rw [mapM_eq_some hread, Option.bind_some, hrun]
  exact congrArg some (congrArg _ (funext fun row => reviseAll_eq he _ row))

/-! ### Values that are given -/

lemma mem_of_firstGiven? {v : Json} (h : firstGiven? d e policy row records f = some v) :
    ∃ r ∈ records, hasKey d e row r = true ∧ changedValue? policy r f = some v := by
  obtain ⟨r, hr, hvalue⟩ := List.exists_of_findSome?_eq_some h
  split_ifs at hvalue with hkey
  exact ⟨r, hr, hkey, hvalue⟩

lemma mem_of_lastGiven? {size : Nat} {v : Json}
    (h : lastGiven? d e policy row (chunks size records) f = some v) :
    ∃ r ∈ records, hasKey d e row r = true ∧ changedValue? policy r f = some v := by
  obtain ⟨chunk, hchunk, hfirst⟩ := List.mem_filterMap.mp (List.mem_of_getLast? h)
  obtain ⟨r, hr, hgiven⟩ := mem_of_firstGiven? hfirst
  refine ⟨r, ?_, hgiven⟩
  rw [← flatten_chunks size records]
  exact List.mem_flatten_of_mem hchunk hr

/-- A field for which a record with the key has a value is given one. -/
lemma lastGiven?_isSome {size : Nat} (hr : r ∈ records) (hkey : hasKey d e row r = true)
    (hvalue : (changedValue? policy r f).isSome = true) :
    (lastGiven? d e policy row (chunks size records) f).isSome = true := by
  rw [← flatten_chunks size records] at hr
  obtain ⟨chunk, hchunk, hr⟩ := List.mem_flatten.mp hr
  have hfirst : (firstGiven? d e policy row chunk f).isSome = true := by
    rw [firstGiven?, List.isSome_findSome?, List.any_eq_true]
    exact ⟨r, hr, by rw [if_pos hkey, hvalue]⟩
  obtain ⟨v, hv⟩ := Option.isSome_iff_exists.mp hfirst
  rw [lastGiven?, List.getLast?_isSome]
  exact List.ne_nil_of_mem (List.mem_filterMap.mpr ⟨chunk, hchunk, hv⟩)

end

end QueryLoom.Batch

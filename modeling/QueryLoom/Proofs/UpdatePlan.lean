import QueryLoom.Batch.Update
import QueryLoom.Proofs.Records
import QueryLoom.Proofs.Results

/-!
# The plan of an update

An update has a plan exactly if every record gives its key, and each chunk of records adds at most
one statement.
-/

namespace QueryLoom.Batch

/-! ### Changes -/

/-- A record gives a value for each field of the primary key. -/
def IsKeyed (e : Entity) (r : Record) : Prop :=
  ∀ f ∈ e.primaryKeys, isGiven (r.get? f.name) = true

/-- What a record changes. -/
def changeOf (e : Entity) (policy : SkipPolicy) (r : Record) : Change :=
  ⟨matchesOf e.primaryKeys r, (e.fields.filter fun f => !f.primaryKey).filterMap fun f =>
    (changedValue? policy r f).map (Match.mk f)⟩

lemma ofRecord_eq_ok {e : Entity} {policy : SkipPolicy} {r : Record} {c : Change} :
    Change.ofRecord e policy r = .ok c ↔ IsKeyed e r ∧ c = changeOf e policy r := by
  have hkey (f : Field) (m : Match) : keyMatch e r f = .ok m ↔
      isGiven (r.get? f.name) = true ∧ m = ⟨f, (r.get? f.name).getD .null⟩ := by
    unfold keyMatch
    dsimp only
    split_ifs with hgiven <;> simp [hgiven, eq_comm]
  rw [Change.ofRecord, SqlResult.bind_eq_ok]
  constructor
  · rintro ⟨key, hmap, hc⟩
    obtain ⟨hgiven, rfl⟩ := (SqlResult.mapM_eq_ok_map hkey).mp hmap
    exact ⟨hgiven, (SqlResult.pure_eq_ok.mp hc).symm⟩
  · rintro ⟨hgiven, rfl⟩
    exact ⟨_, (SqlResult.mapM_eq_ok_map hkey).mpr ⟨hgiven, rfl⟩, rfl⟩

/-- The changes of some records that change something. -/
def changesOf (e : Entity) (policy : SkipPolicy) (records : List Record) : List Change :=
  (records.map (changeOf e policy)).filter fun c => !c.sets.isEmpty

/-- The fields that one of some changes sets. -/
def changedFields (e : Entity) (changes : List Change) : List Field :=
  e.fields.filter fun f => changes.any fun c => (c.valueOf? f).isSome

/-- The statements for the changes of one chunk. -/
def stepsOf (e : Entity) (changes : List Change) : List Step :=
  if changes.isEmpty then []
  else [.update e ((changedFields e changes).map (assignmentOf changes)) (changes.map (·.key))]

lemma ok_stepsOf (e : Entity) (changes : List Change) :
    (do
      if changes.isEmpty then return []
      let columns := e.fields.filter fun f => changes.any fun c => (c.valueOf? f).isSome
      return [.update e (columns.map (assignmentOf changes)) (changes.map (·.key))])
      = (.ok (stepsOf e changes) : SqlResult (List Step)) := by
  unfold stepsOf changedFields
  split <;> rfl

lemma updateChunk_eq_ok {e : Entity} {policy : SkipPolicy} {records : List Record}
    {steps : List Step} : updateChunk e policy records = .ok steps ↔
      (∀ r ∈ records, IsKeyed e r) ∧ steps = stepsOf e (changesOf e policy records) := by
  have hsteps := ok_stepsOf e (changesOf e policy records)
  rw [updateChunk, SqlResult.bind_eq_ok]
  constructor
  · rintro ⟨all, hall, h⟩
    obtain ⟨hkeyed, rfl⟩ := (SqlResult.mapM_eq_ok_map fun r c => ofRecord_eq_ok).mp hall
    exact ⟨hkeyed, (Except.ok.inj (hsteps.symm.trans h)).symm⟩
  · rintro ⟨hkeyed, rfl⟩
    exact ⟨_, (SqlResult.mapM_eq_ok_map fun r c => ofRecord_eq_ok).mpr ⟨hkeyed, rfl⟩, hsteps⟩

/-! ### Plans -/

/-- The statements of an update in chunks of `size` records. -/
def updateSteps (e : Entity) (policy : SkipPolicy) (size : Nat) (records : List Record) :
    List Step :=
  (chunks size records).flatMap fun chunk => stepsOf e (changesOf e policy chunk)

lemma updatePlan_eq_ok {e : Entity} {records : List Record} {config : Config}
    {steps : List Step} : updatePlan e records config = .ok steps ↔
      (config.maxDeal ≠ 0 ∧ e.primaryKeys ≠ [] ∧ ∀ r ∈ records, IsKeyed e r)
        ∧ steps = updateSteps e config.skip config.maxDeal records := by
  rw [updatePlan, SqlResult.bind_eq_ok]
  constructor
  · rintro ⟨_, hvalid, h⟩
    split at h
    · exact absurd h SqlResult.throw_bind_ne_ok
    next hkey =>
      obtain ⟨all, hall, h⟩ := SqlResult.bind_eq_ok.mp h
      obtain ⟨hkeyed, rfl⟩ := (SqlResult.mapM_eq_ok_map fun _ _ => updateChunk_eq_ok).mp hall
      refine ⟨⟨validate_eq_ok.mp hvalid, ?_, forall_mem_chunks.mp hkeyed⟩, ?_⟩
      · simpa [Entity.isKeyless] using hkey
      · rw [updateSteps, List.flatMap]
        exact (SqlResult.pure_eq_ok.mp h).symm
  · rintro ⟨⟨hsize, hkey, hkeyed⟩, rfl⟩
    refine ⟨(), validate_eq_ok.mpr hsize, ?_⟩
    rw [if_neg (by simpa [Entity.isKeyless] using hkey)]
    refine SqlResult.bind_eq_ok.mpr ⟨_, (SqlResult.mapM_eq_ok_map fun _ _ =>
      updateChunk_eq_ok).mpr ⟨forall_mem_chunks.mpr hkeyed, rfl⟩, ?_⟩
    rw [updateSteps, List.flatMap]
    rfl

lemma update_eq_ok {e : Entity} {records : List Record} {config : Config}
    {statements : List Statement} : (update e records config).value = .ok statements ↔
      (config.maxDeal ≠ 0 ∧ e.primaryKeys ≠ [] ∧ ∀ r ∈ records, IsKeyed e r)
        ∧ statements = (updateSteps e config.skip config.maxDeal records).map
            (Step.build config.dialect) := by
  unfold update
  cases hplan : updatePlan e records config with
  | error err =>
    simp only [reduceCtorEq, false_iff]
    rintro ⟨hready, -⟩
    rw [updatePlan_eq_ok.mpr ⟨hready, rfl⟩] at hplan
    cases hplan
  | ok steps =>
    obtain ⟨hready, rfl⟩ := updatePlan_eq_ok.mp hplan
    rw [Except.ok.injEq, and_iff_right hready]
    exact eq_comm

end QueryLoom.Batch

import QueryLoom.Batch.Insert
import QueryLoom.Batch.Select
import QueryLoom.Batch.Update
import QueryLoom.Proofs.SameShape

/-!
# Values never reach the text of a batch

Two calls of a batch operation with as many records, the same keys in corresponding records and
values of the same classes make plans of the same shape, or both fail. The statements of the two
calls then differ in nothing but the values they bind.
-/

namespace QueryLoom.Batch

/-! ### Lists of related items -/

lemma any_eq_of_forall₂ {α β : Type} {R : α → β → Prop} {p : α → Bool} {q : β → Bool}
    {xs : List α} {ys : List β} (h : List.Forall₂ R xs ys) (hpq : ∀ a b, R a b → p a = q b) :
    xs.any p = ys.any q := by
  induction h with
  | nil => rfl
  | cons hab _ ih => rw [List.any_cons, List.any_cons, hpq _ _ hab, ih]

lemma forall₂_zip {α β γ δ : Type} {R : α → β → Prop} {S : γ → δ → Prop} {xs : List α}
    {ys : List β} {us : List γ} {vs : List δ} (h : List.Forall₂ R xs ys)
    (h' : List.Forall₂ S us vs) :
    List.Forall₂ (fun x y => R x.1 y.1 ∧ S x.2 y.2) (xs.zip us) (ys.zip vs) := by
  induction h generalizing us vs with
  | nil => exact .nil
  | cons hab _ ih =>
    cases h' with
    | nil => exact .nil
    | cons hcd hrest => exact .cons ⟨hab, hcd⟩ (ih hrest)

lemma forall₂_map_same {α β γ : Type} {S : β → γ → Prop} {f : α → β} {g : α → γ} {xs : List α}
    (h : ∀ x ∈ xs, S (f x) (g x)) : List.Forall₂ S (xs.map f) (xs.map g) := by
  rw [List.forall₂_map_left_iff, List.forall₂_map_right_iff]
  exact List.forall₂_same.mpr h

lemma forall₂_map {α β γ δ : Type} {R : α → β → Prop} {S : γ → δ → Prop} {f : α → γ} {g : β → δ}
    {xs : List α} {ys : List β} (h : List.Forall₂ R xs ys) (hfg : ∀ a b, R a b → S (f a) (g b)) :
    List.Forall₂ S (xs.map f) (ys.map g) := by
  rw [List.forall₂_map_left_iff, List.forall₂_map_right_iff]
  exact h.imp fun a b => hfg a b

/-! ### Insert -/

/-- Plans of the same shape, step by step. -/
abbrev SamePlan : List Step → List Step → Prop := List.Forall₂ Step.SameShape

lemma SamePlan.refl (steps : List Step) : SamePlan steps steps :=
  List.forall₂_same.mpr fun s _ => .refl s

lemma insertedFields_eq (e : Entity) (policy : SkipPolicy) {rs ss : List Record}
    (h : List.Forall₂ AlikeRecords rs ss) :
    insertedFields e policy rs = insertedFields e policy ss := by
  unfold insertedFields
  congr 1
  funext f
  exact any_eq_of_forall₂ h fun r s hrs => (insertedValue?_same hrs policy f).isSome

lemma insertedCell_alike (policy : SkipPolicy) {r s : Record} (h : AlikeRecords r s) (f : Field) :
    (insertedCell policy r f).Alike (insertedCell policy s f) := by
  have hvalue := (insertedValue?_same h policy f).getD (f.default?.getD .null)
  unfold insertedCell
  cases f.generator? with
  | none => exact .value _ _
  | some g =>
    simp only [hvalue.isNull]
    split
    · exact .generated g
    · exact .value _ _

lemma insertedRows_alike (policy : SkipPolicy) (columns : List Field) {rs ss : List Record}
    (h : List.Forall₂ AlikeRecords rs ss) :
    List.Forall₂ (List.Forall₂ Cell.Alike) (rs.map (insertedRow policy columns))
      (ss.map (insertedRow policy columns)) :=
  forall₂_map h fun _ _ hrs => forall₂_map_same fun f _ => insertedCell_alike policy hrs f

lemma existenceMatch_agree (e : Entity) (policy : SkipPolicy) {r s : Record}
    (h : AlikeRecords r s) (f : Field) :
    Agree Match.Alike (existenceMatch e policy r f) (existenceMatch e policy s f) := by
  have hvalue := insertedValue?_same h policy f
  unfold existenceMatch
  generalize insertedValue? policy r f = v? at hvalue ⊢
  generalize insertedValue? policy s f = w? at hvalue ⊢
  cases hvalue with
  | none => exact .refl (fun m => ⟨rfl, rfl⟩) _
  | @some v w hvw =>
    cases hnull : w.isNull with
    | true => simpa [Option.filter, hvw.isNull, hnull] using .refl (fun m => ⟨rfl, rfl⟩) _
    | false => simpa [Option.filter, hvw.isNull, hnull] using .ok ⟨rfl, hvw⟩

lemma insertChunk_agree (e : Entity) (mode : InsertMode) (checked : List Field)
    (policy : SkipPolicy) (temp : String) {rs ss : List Record}
    (h : List.Forall₂ AlikeRecords rs ss) :
    Agree SamePlan (insertChunk e mode checked policy temp rs)
      (insertChunk e mode checked policy temp ss) := by
  have hrows := insertedRows_alike policy (insertedFields e policy ss) h
  simp only [insertChunk, insertedFields_eq e policy h]
  split
  · exact .error _ _
  · cases mode with
    | insert => exact .ok (.cons (.insert e _ hrows) .nil)
    | replace => exact .ok (.cons (.replace e _ hrows) .nil)
    | ifNotExists =>
      have hchecks : Agree (List.Forall₂ (List.Forall₂ Match.Alike))
          (rs.mapM fun r => checked.mapM (existenceMatch e policy r))
          (ss.mapM fun r => checked.mapM (existenceMatch e policy r)) :=
        Agree.mapM h fun r s hrs => Agree.mapM_same fun f => existenceMatch_agree e policy hrs f
      refine hchecks.bind fun checks checks' hchecks => ?_
      exact .ok (.cons (.insertAbsent e _ (forall₂_zip hrows hchecks)) .nil)
    | tempTable =>
      exact .ok (.cons (.refl _) (.cons (.refl _) (.cons (.fillTemp temp _ hrows)
        (.cons (.refl _) (.cons (.refl _) .nil)))))

lemma insertChunks_agree (e : Entity) (mode : InsertMode) (checked : List Field)
    (policy : SkipPolicy) (suffixes : Suffixes) (index : Nat) {cs ds : List (List Record)}
    (h : List.Forall₂ (List.Forall₂ AlikeRecords) cs ds) :
    Agree SamePlan (insertChunks e mode checked policy suffixes index cs)
      (insertChunks e mode checked policy suffixes index ds) := by
  induction h generalizing index with
  | nil => exact .ok .nil
  | cons hchunk _ ih =>
    refine Agree.bind (insertChunk_agree e mode checked policy _ hchunk)
      fun steps steps' hsteps => ?_
    exact Agree.bind (ih (index + 1)) fun more more' hmore => .ok (List.rel_append hsteps hmore)

lemma isEmpty_eq_of_forall₂ {α β : Type} {R : α → β → Prop} {xs : List α} {ys : List β}
    (h : List.Forall₂ R xs ys) : xs.isEmpty = ys.isEmpty := by
  cases h <;> rfl

theorem insertPlan_agree (e : Entity) (mode : InsertMode) (existence? : Option (List String))
    (config : Config) (suffixes : Suffixes) {rs ss : List Record}
    (h : List.Forall₂ AlikeRecords rs ss) :
    Agree SamePlan (insertPlan e rs mode existence? config suffixes)
      (insertPlan e ss mode existence? config suffixes) := by
  have hchunks : ∀ checked, Agree SamePlan
      (insertChunks e mode checked config.skip suffixes 0 (chunks config.maxDeal rs))
      (insertChunks e mode checked config.skip suffixes 0 (chunks config.maxDeal ss)) :=
    fun checked => insertChunks_agree e mode checked config.skip suffixes 0 (forall₂_chunks _ h)
  simp only [insertPlan, isEmpty_eq_of_forall₂ h]
  refine Agree.bind_same fun _ => ?_
  split
  · exact .ok .nil
  · split <;> refine Agree.bind_same fun checked => ?_
    · split
      · exact .error _ _
      · exact hchunks checked
    · split
      · exact .error _ _
      · exact hchunks checked

/-! ### Update -/

/-- The same row is changed, in the same fields. -/
structure Change.Alike (c c' : Change) : Prop where
  key : List.Forall₂ Match.Alike c.key c'.key
  sets : List.Forall₂ Match.Alike c.sets c'.sets

lemma keyMatch_agree (e : Entity) {r s : Record} (h : AlikeRecords r s) (f : Field) :
    Agree Match.Alike (keyMatch e r f) (keyMatch e s f) := by
  have hget := h.get? f.name
  simp only [keyMatch, hget.isGiven]
  split
  · exact .ok ⟨rfl, hget.getD _⟩
  · exact .error _ _

/-- The fields with a value of their own, with it. -/
lemma forall₂_filterMap_match {p q : Field → Option Json} (h : ∀ f, SameOption (p f) (q f))
    (fields : List Field) :
    List.Forall₂ Match.Alike (fields.filterMap fun f => (p f).map (Match.mk f))
      (fields.filterMap fun f => (q f).map (Match.mk f)) := by
  induction fields with
  | nil => exact .nil
  | cons f fields ih =>
    rw [List.filterMap_cons, List.filterMap_cons]
    have hf := h f
    generalize p f = v? at hf ⊢
    generalize q f = w? at hf ⊢
    cases hf with
    | none => exact ih
    | some hvw => exact .cons ⟨rfl, hvw⟩ ih

lemma Change.ofRecord_agree (e : Entity) (policy : SkipPolicy) {r s : Record}
    (h : AlikeRecords r s) :
    Agree Change.Alike (Change.ofRecord e policy r) (Change.ofRecord e policy s) := by
  have hkey : Agree (List.Forall₂ Match.Alike) (e.primaryKeys.mapM (keyMatch e r))
      (e.primaryKeys.mapM (keyMatch e s)) := Agree.mapM_same fun f => keyMatch_agree e h f
  refine hkey.bind fun key key' hkey => .ok ⟨hkey, ?_⟩
  exact forall₂_filterMap_match (fun f => changedValue?_same h policy f) _

lemma valueOf?_isSome_eq {c c' : Change} (h : c.Alike c') (f : Field) :
    (c.valueOf? f).isSome = (c'.valueOf? f).isSome := by
  simp only [Change.valueOf?, Option.isSome_map, List.isSome_find?]
  exact any_eq_of_forall₂ h.sets fun m n hmn => by rw [hmn.field]

lemma assignmentOf_alike {cs ds : List Change} (h : List.Forall₂ Change.Alike cs ds) (f : Field) :
    (assignmentOf cs f).Alike (assignmentOf ds f) := by
  refine ⟨rfl, ?_⟩
  simp only [assignmentOf]
  induction h with
  | nil => exact .nil
  | @cons c d cs ds hcd _ ih =>
    rw [List.filterMap_cons, List.filterMap_cons]
    have hsome := valueOf?_isSome_eq hcd f
    cases hc : c.valueOf? f with
    | none =>
      have hd : d.valueOf? f = none := by simpa [hc] using hsome
      simpa [hd] using ih
    | some v =>
      obtain ⟨w, hd⟩ := Option.isSome_iff_exists.mp (by simpa [hc] using hsome.symm)
      simpa [hd] using ⟨hcd.key, ih⟩

lemma forall₂_filter {α β : Type} {R : α → β → Prop} {p : α → Bool} {q : β → Bool} {xs : List α}
    {ys : List β} (h : List.Forall₂ R xs ys) (hpq : ∀ a b, R a b → p a = q b) :
    List.Forall₂ R (xs.filter p) (ys.filter q) := by
  induction h with
  | nil => exact .nil
  | @cons a b _ _ hab _ ih =>
    rw [List.filter_cons, List.filter_cons, hpq a b hab]
    split
    · exact .cons hab ih
    · exact ih

lemma updateChunk_agree (e : Entity) (policy : SkipPolicy) {rs ss : List Record}
    (h : List.Forall₂ AlikeRecords rs ss) :
    Agree SamePlan (updateChunk e policy rs) (updateChunk e policy ss) := by
  have hall : Agree (List.Forall₂ Change.Alike) (rs.mapM (Change.ofRecord e policy))
      (ss.mapM (Change.ofRecord e policy)) :=
    Agree.mapM h fun r s hrs => Change.ofRecord_agree e policy hrs
  refine hall.bind fun cs ds hcs => ?_
  have hchanges := forall₂_filter (p := fun c => !c.sets.isEmpty) (q := fun c => !c.sets.isEmpty)
    hcs fun c d hcd => by rw [isEmpty_eq_of_forall₂ hcd.sets]
  simp only [isEmpty_eq_of_forall₂ hchanges]
  split
  · exact .ok .nil
  · have hcolumns : ∀ f, (cs.filter fun c => !c.sets.isEmpty).any (fun c => (c.valueOf? f).isSome)
        = (ds.filter fun c => !c.sets.isEmpty).any fun c => (c.valueOf? f).isSome :=
      fun f => any_eq_of_forall₂ hchanges fun c d hcd => valueOf?_isSome_eq hcd f
    simp only [hcolumns]
    refine .ok (.cons (.update e ?_ ?_) .nil)
    · exact forall₂_map_same fun f _ => assignmentOf_alike hchanges f
    · exact forall₂_map hchanges fun c d hcd => hcd.key

lemma flatten_samePlan {ps qs : List (List Step)} (h : List.Forall₂ SamePlan ps qs) :
    SamePlan ps.flatten qs.flatten := by
  induction h with
  | nil => exact .nil
  | cons hpq _ ih => exact List.rel_append hpq ih

theorem updatePlan_agree (e : Entity) (config : Config) {rs ss : List Record}
    (h : List.Forall₂ AlikeRecords rs ss) :
    Agree SamePlan (updatePlan e rs config) (updatePlan e ss config) := by
  have hsteps : Agree (List.Forall₂ SamePlan)
      ((chunks config.maxDeal rs).mapM (updateChunk e config.skip))
      ((chunks config.maxDeal ss).mapM (updateChunk e config.skip)) :=
    Agree.mapM (forall₂_chunks _ h) fun rs ss hrs => updateChunk_agree e config.skip hrs
  refine Agree.bind_same fun _ => ?_
  dsimp only
  split
  · exact .error _ _
  · exact hsteps.bind fun ps qs hpq => .ok (flatten_samePlan hpq)

/-! ### Staged rows -/

lemma hasExactly_eq (fields : List Field) {r s : Record} (h : AlikeRecords r s) :
    hasExactly fields r = hasExactly fields s := by
  simp only [hasExactly, List.Forall₂.length_eq h, h.has]

lemma stagedRow_alike (fields : List Field) (r s : Record) :
    List.Forall₂ Cell.Alike (stagedRow fields r) (stagedRow fields s) := by
  simp only [stagedRow, matchesOf, List.map_map]
  exact forall₂_map_same fun f _ => .value _ _

lemma stage_agree (temp : String) (fields : List Field) (size : Nat) {rs ss : List Record}
    (h : List.Forall₂ AlikeRecords rs ss) :
    Agree SamePlan (stage temp fields rs size) (stage temp fields ss size) := by
  have hodd : (rs.find? fun r => !hasExactly fields r).isSome
      = (ss.find? fun r => !hasExactly fields r).isSome := by
    rw [List.isSome_find?, List.isSome_find?]
    exact any_eq_of_forall₂ h fun r s hrs => by rw [hasExactly_eq fields hrs]
  unfold stage
  split
  · next hr =>
    have hsome : (ss.find? fun r => !hasExactly fields r).isSome = true := by rw [← hodd, hr]; rfl
    obtain ⟨odd, hs⟩ := Option.isSome_iff_exists.mp hsome
    rw [hs]
    exact .error _ _
  · next hr =>
    have hs : (ss.find? fun r => !hasExactly fields r) = none := by
      rw [← Option.not_isSome_iff_eq_none, ← hodd, hr]
      exact Bool.false_ne_true
    rw [hs]
    refine .ok (.cons (.refl _) (.cons (.refl _) ?_))
    exact forall₂_map (forall₂_chunks size h) fun c d hcd =>
      .fillTemp temp fields (forall₂_map hcd fun r s _ => stagedRow_alike fields r s)

/-! ### Delete -/

lemma predicateGroup_agree (e : Entity) {r s : Record} (h : AlikeRecords r s) :
    Agree (List.Forall₂ Match.Alike) (predicateGroup e r) (predicateGroup e s) := by
  refine (predicateFields_agree e h).map fun fields fields' hfields => ?_
  subst hfields
  exact forall₂_map_same fun f _ => ⟨rfl, (h.get? f.name).getD _⟩

lemma deleteRecords_agree (e : Entity) (mark? : Option Mark) (mode : MatchMode) (size : Nat)
    (temp : String) {r s : Record} {rs ss : List Record} (h : AlikeRecords r s)
    (hrest : List.Forall₂ AlikeRecords rs ss) :
    Agree SamePlan (deleteRecords e mark? mode size temp r rs)
      (deleteRecords e mark? mode size temp s ss) := by
  have hall : List.Forall₂ AlikeRecords (r :: rs) (s :: ss) := .cons h hrest
  cases mode with
  | common =>
    have hgroups : Agree (List.Forall₂ (List.Forall₂ Match.Alike))
        ((r :: rs).mapM (predicateGroup e)) ((s :: ss).mapM (predicateGroup e)) :=
      Agree.mapM hall fun r s hrs => predicateGroup_agree e hrs
    exact hgroups.bind fun gs hs hgs => .ok (.cons (.delete e mark? hgs) .nil)
  | tempTable =>
    refine (predicateFields_agree e h).bind fun fields fields' hfields => ?_
    subst hfields
    refine (stage_agree temp fields size hall).bind fun steps steps' hsteps => .ok ?_
    exact List.rel_append hsteps (SamePlan.refl _)

theorem deletePlan_agree (e : Entity) (mode : MatchMode) (force : Bool) (config : Config)
    (suffixes : Suffixes) {t u : Target} (h : AlikeTargets t u) :
    Agree SamePlan (deletePlan e t mode force config suffixes)
      (deletePlan e u mode force config suffixes) := by
  have hrecords := targetRecords_agree e h
  refine Agree.bind_same fun _ => ?_
  cases h <;>
  · refine hrecords.bind fun rs ss hrs => ?_
    cases hrs with
    | nil => exact .ok .nil
    | cons hr hrest => exact deleteRecords_agree e _ mode _ _ hr hrest

/-! ### Select -/

lemma constrained_agree (e : Entity) (policy : SkipPolicy) {r s : Record} (h : AlikeRecords r s) :
    Agree (List.Forall₂ Match.Alike) (constrained e policy r) (constrained e policy s) := by
  have hkept := forall₂_filterMap_match (fun f => changedValue?_same h policy f) e.fields
  simp only [constrained, unknownName?_eq e h, isEmpty_eq_of_forall₂ hkept]
  split
  · exact .error _ _
  · split
    · exact .error _ _
    · exact .ok hkept

lemma recordOf_alike {group group' : List Match} (h : List.Forall₂ Match.Alike group group') :
    AlikeRecords (recordOf group) (recordOf group') := by
  have hinsert : ∀ {r s : Record}, AlikeRecords r s →
      AlikeRecords (group.foldl (fun r m => r.insert m.field.name m.value) r)
        (group'.foldl (fun r m => r.insert m.field.name m.value) s) := by
    induction h with
    | nil => exact fun hrs => hrs
    | @cons m n _ _ hmn _ ih =>
      intro r s hrs
      rw [List.foldl_cons, List.foldl_cons, hmn.field]
      exact ih (hrs.insert n.field.name hmn.value)
  simpa only [recordOf, KeyMap.ofEntries, List.foldl_map] using hinsert .nil

lemma fields_eq {group group' : List Match} (h : List.Forall₂ Match.Alike group group') :
    group.map (·.field) = group'.map (·.field) := by
  induction h with
  | nil => rfl
  | cons hmn _ ih => rw [List.map_cons, List.map_cons, hmn.field, ih]

/-- Steps of the same shape, the same one of which returns the rows. -/
structure SameSelect (p q : SelectPlan) : Prop where
  steps : SamePlan p.steps q.steps
  queryStep : p.queryStep = q.queryStep

lemma SameSelect.refl (p : SelectPlan) : SameSelect p p := ⟨.refl p.steps, rfl⟩

lemma selectGroups_agree (e : Entity) (selection : Selection) (mode : MatchMode) (size : Nat)
    (temp : String) {group group' : List Match} {gs hs : List (List Match)}
    (h : List.Forall₂ Match.Alike group group')
    (hrest : List.Forall₂ (List.Forall₂ Match.Alike) gs hs) :
    Agree SameSelect (selectGroups e selection mode size temp group gs)
      (selectGroups e selection mode size temp group' hs) := by
  cases mode with
  | common => exact .ok ⟨.cons (.select e selection (.cons h hrest)) .nil, rfl⟩
  | tempTable =>
    have hrecords : List.Forall₂ AlikeRecords ((group :: gs).map recordOf)
        ((group' :: hs).map recordOf) :=
      forall₂_map (List.Forall₂.cons h hrest) fun _ _ hgroup => recordOf_alike hgroup
    simp only [selectGroups, fields_eq h]
    refine (stage_agree temp _ size hrecords).bind fun steps steps' hsteps => .ok ?_
    exact ⟨List.rel_append hsteps (SamePlan.refl _), hsteps.length_eq⟩

theorem selectPlan_agree (e : Entity) (mode : MatchMode) (count : Bool)
    (names? : Option (List String)) (config : Config) (suffixes : Suffixes) {t u : Target}
    (h : AlikeTargets t u) :
    Agree SameSelect (selectPlan e t mode count names? config suffixes)
      (selectPlan e u mode count names? config suffixes) := by
  have hrecords := targetRecords_agree e h
  refine Agree.bind_same fun _ => ?_
  dsimp only
  split <;>
  · refine Agree.bind_same fun selection => ?_
    cases h <;>
    · refine hrecords.bind fun rs ss hrs => ?_
      have hgroups : Agree (List.Forall₂ (List.Forall₂ Match.Alike))
          (rs.mapM (constrained e config.skip)) (ss.mapM (constrained e config.skip)) :=
        Agree.mapM hrs fun r s hrs => constrained_agree e config.skip hrs
      refine hgroups.bind fun gs hs hgs => ?_
      cases hgs with
      | nil => exact .error _ _
      | cons hgroup hrest => exact selectGroups_agree e selection mode _ _ hgroup hrest

/-! ### Calls -/

/-- A call of a batch operation that addresses rows by keys or by records. -/
inductive Call where
  | insert (records : List Record) (mode : InsertMode) (existence? : Option (List String))
  | update (records : List Record)
  | delete (target : Target) (mode : MatchMode) (force : Bool)
  | select (target : Target) (mode : MatchMode) (count : Bool) (names? : Option (List String))

/-- The statements a call makes. -/
def Call.statements (e : Entity) (config : Config) (suffixes : Suffixes) :
    Call → SqlResult (List Statement)
  | .insert records mode existence? => (Batch.insert e records mode existence? config suffixes).value
  | .update records => (Batch.update e records config).value
  | .delete target mode force => (Batch.delete e target mode force config suffixes).value
  | .select target mode count names? =>
    (Batch.select e target mode count names? config suffixes).value.map Prod.fst

/-- The calls differ in nothing but their values, and these have the same classes. -/
inductive Call.Alike : Call → Call → Prop where
  | insert {rs ss : List Record} (h : List.Forall₂ AlikeRecords rs ss) (mode : InsertMode)
      (existence? : Option (List String)) :
      Alike (.insert rs mode existence?) (.insert ss mode existence?)
  | update {rs ss : List Record} (h : List.Forall₂ AlikeRecords rs ss) :
      Alike (.update rs) (.update ss)
  | delete {t u : Target} (h : AlikeTargets t u) (mode : MatchMode) (force : Bool) :
      Alike (.delete t mode force) (.delete u mode force)
  | select {t u : Target} (h : AlikeTargets t u) (mode : MatchMode) (count : Bool)
      (names? : Option (List String)) :
      Alike (.select t mode count names?) (.select u mode count names?)

/-- The plan whose steps are the statements of a call. -/
def Call.plan (e : Entity) (config : Config) (suffixes : Suffixes) : Call → SqlResult (List Step)
  | .insert records mode existence? => insertPlan e records mode existence? config suffixes
  | .update records => updatePlan e records config
  | .delete target mode force => deletePlan e target mode force config suffixes
  | .select target mode count names? =>
    (selectPlan e target mode count names? config suffixes).map SelectPlan.steps

lemma Call.statements_eq (e : Entity) (config : Config) (suffixes : Suffixes) (call : Call) :
    call.statements e config suffixes =
      (call.plan e config suffixes).map fun steps => steps.map (Step.build config.dialect) := by
  cases call with
  | insert records mode existence? =>
    simp only [statements, plan, Batch.insert]
    cases insertPlan e records mode existence? config suffixes <;> rfl
  | update records =>
    simp only [statements, plan, Batch.update]
    cases updatePlan e records config <;> rfl
  | delete target mode force =>
    simp only [statements, plan, Batch.delete]
    cases deletePlan e target mode force config suffixes <;> rfl
  | select target mode count names? =>
    simp only [statements, plan, Batch.select]
    cases selectPlan e target mode count names? config suffixes <;> rfl

lemma Call.plan_agree (e : Entity) (config : Config) (suffixes : Suffixes) {a b : Call}
    (h : a.Alike b) : Agree SamePlan (a.plan e config suffixes) (b.plan e config suffixes) := by
  cases h with
  | insert h mode existence? => exact insertPlan_agree e mode existence? config suffixes h
  | update h => exact updatePlan_agree e config h
  | delete h mode force => exact deletePlan_agree e mode force config suffixes h
  | select h mode count names? =>
    exact (selectPlan_agree e mode count names? config suffixes h).map fun _ _ hpq => hpq.steps

/-- Calls that differ in nothing but values of the same classes both fail, or make as many
statements, which have the same text and bind as many values one by one. -/
theorem Call.statements_agree (e : Entity) (config : Config) (suffixes : Suffixes) {a b : Call}
    (h : a.Alike b) :
    Agree (List.Forall₂ Statement.SameText) (a.statements e config suffixes)
      (b.statements e config suffixes) := by
  rw [Call.statements_eq, Call.statements_eq]
  exact (Call.plan_agree e config suffixes h).map fun _ _ hsteps =>
    forall₂_map hsteps fun _ _ hst => (hst config.dialect).build config.dialect

/-- A table of accounts with a key and a name. -/
def accounts : Entity :=
  ⟨"account", "account", ⟨[.plain "account"]⟩,
    [⟨(FieldDecl.ofName "id" .bigInt).asPrimaryKey, .plain "id"⟩,
      ⟨FieldDecl.ofName "name" .text, .plain "name"⟩]⟩

/-- A value with a quote in it leaves the text as it is. -/
theorem Call.statements_agree_quote :
    (Call.delete (.records [[("name", .string "x")]]) .common true).statements accounts .standard
      (fun _ => "0") = .ok [⟨"DELETE FROM account WHERE (name = ?)", [.string "x"]⟩] ∧
    Agree (List.Forall₂ Statement.SameText)
      ((Call.delete (.records [[("name", .string "x")]]) .common true).statements accounts
        .standard fun _ => "0")
      ((Call.delete (.records [[("name", .string "' OR 1 = 1 --")]]) .common true).statements
        accounts .standard fun _ => "0") := by
  have hclass : SameClass (.string "x") (.string "' OR 1 = 1 --") :=
    show classOf _ = classOf _ by decide
  refine ⟨rfl, Call.statements_agree accounts .standard _ (.delete (.records ?_) .common true)⟩
  exact .cons (.cons ⟨rfl, hclass⟩ .nil) .nil

end QueryLoom.Batch

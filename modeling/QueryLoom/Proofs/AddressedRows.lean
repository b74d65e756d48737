import QueryLoom.Batch.Select
import QueryLoom.Proofs.StagedRows

/-!
# Rows that are addressed directly or by a join

A delete or a select addresses rows by the conditions of its records, either in one statement or by
a join with a temporary table of their values. Each row is addressed as often in either way.
-/

namespace QueryLoom

open Dml

namespace Dml

/-! ### How often a row is addressed -/

/-- The scopes in which a statement addresses the rows of a table. -/
def Command.scopes (table : List IdentPart) : Command → List Scope
  | .change _ changed scope => if changed = table then [scope] else []
  | .query queries => (queries.filter fun q => q.table = table).map (·.scope)
  | _ => []

namespace Engine

variable (g : Engine) {row : TableRow}

/-- How often a row is addressed in a scope. -/
def hitsIn (temps : Temps) (row : TableRow) (scope : Scope) : Option Nat :=
  (alternatives temps scope).map (g.hits row)

/-- How often a row of a table is addressed by a statement, in all of its scopes. -/
def reach (temps : Temps) (table : List IdentPart) (row : TableRow) (c : Command) : Option Nat :=
  ((c.scopes table).mapM (alternatives temps)).map fun as => g.hits row as.flatten

/-- Whether a row has some values, nulls included. -/
def fits (row : TableRow) (ms : List Match) : Bool :=
  ms.all fun m => g.compareNulls (g.valueOf row m.field.part) m.value = .yes

/-- Asking for a value or for null is a comparison that holds between nulls. -/
lemma truth_matchTest (owner : List IdentPart) (m : Match) :
    g.truth row none (matchTest owner m) = .yes
      ↔ g.compareNulls (g.valueOf row m.field.part) m.value = .yes := by
  unfold matchTest compareNulls
  cases hm : m.value.isNull with
  | true => simp [truth]
  | false =>
    cases ha : (g.valueOf row m.field.part).isNull <;>
      simp [truth, compare, ha, hm, Truth.ofBool]

lemma alternative_matchTest (owner : List IdentPart) (ms : List Match) :
    g.alternative row ⟨ms.map (matchTest owner), none⟩ = .yes ↔ g.fits row ms = true := by
  rw [alternative, Truth.all_eq_yes, fits, List.all_eq_true]
  simp only [List.mem_map, forall_exists_index, and_imp, forall_apply_eq_imp_iff₂,
    decide_eq_true_eq]
  exact forall₂_congr fun m _ => g.truth_matchTest owner m

lemma hitsIn_groups (temps : Temps) (row : TableRow) (owner : List IdentPart)
    (groups : List (List Match)) :
    g.hitsIn temps row (.groups (groups.map fun ms => ms.map (matchTest owner)))
      = some (groups.countP (g.fits row)) := by
  rw [hitsIn, alternatives, Option.map_some, hits, List.countP_map, List.countP_map]
  refine congrArg some (List.countP_congr fun ms _ => ?_)
  rw [Function.comp_apply, Function.comp_apply, decide_eq_true_iff]
  exact g.alternative_matchTest owner ms

lemma reach_change (temps : Temps) (row : TableRow) (action : Action) (table : List IdentPart)
    (scope : Scope) : g.reach temps table row (.change action table scope)
      = g.hitsIn temps row scope := by
  rw [reach, Command.scopes, if_pos rfl, List.mapM_cons, List.mapM_nil, hitsIn]
  cases alternatives temps scope <;> simp

lemma reach_query (temps : Temps) (row : TableRow)
    (columns? : Option (List (IdentPart × Option IdentPart))) (table : List IdentPart)
    (scope : Scope) : g.reach temps table row (.query [⟨columns?, table, scope⟩])
      = g.hitsIn temps row scope := by
  have hscopes : (Command.query [⟨columns?, table, scope⟩]).scopes table = [scope] := by
    simp [Command.scopes]
  rw [reach, hscopes, List.mapM_cons, List.mapM_nil, hitsIn]
  cases alternatives temps scope <;> simp

/-- Selections that are put together address a row as often as one of all their groups does. -/
lemma reach_branches (temps : Temps) (row : TableRow)
    (columns? : Option (List (IdentPart × Option IdentPart))) (table owner : List IdentPart)
    (groups : List (List Match)) :
    g.reach temps table row
        (.query (groups.map fun ms => ⟨columns?, table, .groups [ms.map (matchTest owner)]⟩))
      = g.hitsIn temps row (.groups (groups.map fun ms => ms.map (matchTest owner))) := by
  have hscopes : (Command.query
      (groups.map fun ms => ⟨columns?, table, .groups [ms.map (matchTest owner)]⟩)).scopes table
      = groups.map fun ms => .groups [ms.map (matchTest owner)] := by
    simp [Command.scopes, List.filter_map, Function.comp_def]
  have halternatives : (groups.map fun ms => Scope.groups [ms.map (matchTest owner)]).mapM
      (alternatives temps)
      = some (groups.map fun ms => [⟨ms.map (matchTest owner), none⟩]) :=
    mapM_map_eq_some fun _ _ => rfl
  rw [reach, hscopes, halternatives, hitsIn, alternatives, Option.map_some, Option.map_some,
    ← List.flatMap_def, ← List.map_eq_flatMap, List.map_map]
  rfl

end Engine

end Dml

namespace Batch

variable {e : Entity}

/-- The joined row of a record has the values of the record. -/
lemma valueOf_joinedRow (he : Accepted e) (g : Engine) {fields : List Field}
    (hfields : ∀ f ∈ fields, f ∈ e.fields) (r : Record) {f : Field} (hf : f ∈ fields) :
    g.valueOf (joinedRow g fields r) f.part = (r.get? f.name).getD .null := by
  rw [joinedRow, matchesOf, List.map_map, Engine.valueOf, Engine.rowOf,
    find?_column_of_mem he hfields hf]
  rfl

lemma alternative_sameTest (he : Accepted e) (g : Engine) {row : TableRow} (owner : List IdentPart)
    {fields : List Field} (hfields : ∀ f ∈ fields, f ∈ e.fields) (r : Record) :
    g.alternative row ⟨fields.map (sameTest owner), some (joinedRow g fields r)⟩ = .yes
      ↔ g.fits row (matchesOf fields r) = true := by
  rw [Engine.alternative, Truth.all_eq_yes, Engine.fits, List.all_eq_true, matchesOf]
  simp only [List.mem_map, forall_exists_index, and_imp, forall_apply_eq_imp_iff₂,
    decide_eq_true_eq]
  refine forall₂_congr fun f hf => ?_
  rw [sameTest, Engine.truth, valueOf_joinedRow he g hfields r hf]

lemma hitsIn_joined (he : Accepted e) (g : Engine) (row : TableRow) (owner : List IdentPart)
    {fields : List Field} (hfields : ∀ f ∈ fields, f ∈ e.fields) {temps : Temps} {temp : IdentPart}
    {records : List Record} (htemp : temps temp = some (records.map (joinedRow g fields))) :
    g.hitsIn temps row (.joined temp (fields.map (sameTest owner)))
      = some ((records.map (matchesOf fields)).countP (g.fits row)) := by
  rw [Engine.hitsIn, Engine.alternatives, htemp, Option.map_some, Option.map_some, Engine.hits,
    List.countP_map, List.countP_map, List.countP_map]
  refine congrArg some (List.countP_congr fun r _ => ?_)
  simp only [Function.comp_apply, decide_eq_true_iff]
  exact alternative_sameTest he g owner hfields r

/-! ### Two ways of addressing rows -/

/-- A statement for some groups of conditions and a join with a temporary table reach the rows of
the table of an entity alike: as often as a row has the values of a group. The temporary table is
filled with the values of each group once, in order. -/
structure ReachAlike (g : Engine) (e : Entity) (groups : List (List Match)) (direct : Command)
    (temp : IdentPart) (fills : List Command) (join : Command) : Prop where
  reach_direct : ∀ temps row,
    g.reach temps e.table.parts row direct = some (groups.countP (g.fits row))
  fills_temp : ∀ fill ∈ fills, ∃ columns rows, fill = .insert false [temp] columns rows none
  filled : fills.flatMap Command.written
    = groups.map fun ms => ⟨ms.map (·.field.part), ms.map fun m => .value m.value⟩
  reach_join : ∀ s, ∃ s', g.runAll (.drop temp :: .create temp :: fills) s = some s' ∧
    s'.tables = s.tables ∧
      ∀ row, g.reach s'.temps e.table.parts row join = some (groups.countP (g.fits row))

/-- Statements of which one addresses the rows that have the values of a group directly, and others
that do so by a join; neither are there if there is no group. -/
def AddressAlike (g : Engine) (e : Entity) (groups : List (List Match))
    (direct staged : List Statement) : Prop :=
  (groups = [] ∧ direct = [] ∧ staged = []) ∨ ∃ c temp fills join,
    List.Forall₂ (fun s c => readStatement g.dialect s = some c) direct [c] ∧
    List.Forall₂ (fun s c => readStatement g.dialect s = some c) staged
      (.drop temp :: .create temp :: (fills ++ [join, .drop temp])) ∧
    ReachAlike g e groups c temp fills join

lemma written_fillCommands {temp : String} {fields : List Field} (chunks : List (List Record)) :
    (chunks.map (fillCommand temp fields)).flatMap Command.written
      = (chunks.flatten.map (matchesOf fields)).map fun ms =>
        ⟨ms.map (·.field.part), ms.map fun m => .value m.value⟩ := by
  have hfill (records : List Record) : (fillCommand temp fields records).written
      = (records.map (matchesOf fields)).map fun ms =>
        ⟨ms.map (·.field.part), ms.map fun m => .value m.value⟩ := by
    simp [fillCommand, Command.written, stagedRow, matchesOf, Function.comp_def]
  simp only [hfill, List.flatMap, List.map_flatten, List.map_map,
    Function.comp_def]

/-- A step for some groups, and staged records with the values of these groups beside a step that
joins them, address the same rows. -/
lemma addressAlike_of_stage (he : Accepted e) (g : Engine) {fields : List Field} (hne : fields ≠ [])
    (hfields : ∀ f ∈ fields, f ∈ e.fields) {records : List Record} {groups : List (List Match)}
    (hgroups : records.map (matchesOf fields) = groups) {temp : String}
    (htemp : Ident.isPlain temp.toList = true) {size : Nat} {staged : List Step}
    (hstage : stage temp fields records size = .ok staged) {direct join : Step} {c j : Command}
    {owner : List IdentPart} (hdirect : Reads g.dialect direct c) (hjoin : Reads g.dialect join j)
    (hreach : ∀ temps row, g.reach temps e.table.parts row c = some (groups.countP (g.fits row)))
    (hreachJoin : ∀ temps row, g.reach temps e.table.parts row j
      = g.hitsIn temps row (.joined (.plain temp) (fields.map (sameTest owner)))) :
    AddressAlike g e groups [direct.build g.dialect]
      ((staged ++ [join, .dropTemp temp]).map (Step.build g.dialect)) := by
  have hlegible : ∀ f ∈ fields, Legible f.part := fun f hf => he.legible.fields f (hfields f hf)
  have hdrop : Reads g.dialect (.dropTemp temp) (.drop (.plain temp)) :=
    (readsAs_dropTemp htemp).readWith (by decide)
  refine .inr ⟨c, .plain temp, (chunks size records).map (fillCommand temp fields), j,
    .cons hdirect .nil, ?_, ?_⟩
  · rw [List.forall₂_map_left_iff]
    exact List.rel_append (reads_stage htemp hne hlegible hstage) (.cons hjoin (.cons hdrop .nil))
  refine ⟨hreach, fun fill hfill => ?_, ?_, fun s => ?_⟩
  · obtain ⟨chunk, -, rfl⟩ := List.mem_map.mp hfill
    exact ⟨_, _, rfl⟩
  · rw [written_fillCommands, flatten_chunks, hgroups]
  · refine ⟨_, runAll_stageCommands g s temp fields records size, rfl, fun row => ?_⟩
    rw [hreachJoin, hitsIn_joined he g row owner hfields (Store.temps_withTemp ..), hgroups]

/-! ### Deletes -/

lemma predicateFields_eq_ok {r : Record} {fields : List Field} :
    predicateFields e r = .ok fields ↔
      (unknownName? e r = none ∧ recordFields e r ≠ []) ∧ fields = recordFields e r := by
  unfold predicateFields
  cases unknownName? e r with
  | some name => simp
  | none =>
    dsimp only
    split_ifs with hnone
    · simp [List.isEmpty_iff.mp hnone]
    · simpa [List.isEmpty_iff.not.mp hnone] using eq_comm

lemma predicateGroup_eq_ok {r : Record} {ms : List Match} : predicateGroup e r = .ok ms ↔
    (unknownName? e r = none ∧ recordFields e r ≠ []) ∧ ms = groupOf e fun f => r.get? f.name := by
  rw [predicateGroup, SqlResult.map_eq_ok]
  constructor
  · rintro ⟨fields, hfields, rfl⟩
    obtain ⟨hready, rfl⟩ := predicateFields_eq_ok.mp hfields
    exact ⟨hready, matchesOf_recordFields e r⟩
  · rintro ⟨hready, rfl⟩
    exact ⟨_, predicateFields_eq_ok.mpr ⟨hready, rfl⟩, matchesOf_recordFields e r⟩

lemma delete_ok {target : Target} {mode : MatchMode} {force : Bool} {config : Config}
    {suffixes : Suffixes} {statements : List Statement}
    (h : (delete e target mode force config suffixes).value = .ok statements) :
    ∃ steps, deletePlan e target mode force config suffixes = .ok steps ∧
      statements = steps.map (Step.build config.dialect) := by
  unfold delete at h
  cases hplan : deletePlan e target mode force config suffixes with
  | error err => simp [hplan] at h
  | ok steps => exact ⟨steps, rfl, by simpa [hplan] using h.symm⟩

/-- A delete has a step for its records, if there are any. -/
lemma deletePlan_ok {target : Target} (htarget : isRaw target = false) {mode : MatchMode}
    {force : Bool} {config : Config} {suffixes : Suffixes} {steps : List Step}
    (h : deletePlan e target mode force config suffixes = .ok steps) :
    ∃ records, targetRecords e target = .ok records ∧ ((records = [] ∧ steps = []) ∨
      ∃ first others, records = first :: others ∧
        deleteRecords e (markOf? e force) mode config.maxDeal (tempName e (suffixes 0)) first others
          = .ok steps) := by
  unfold deletePlan at h
  obtain ⟨_, -, h⟩ := SqlResult.bind_eq_ok.mp h
  cases target
  case raw => cases htarget
  all_goals
    obtain ⟨records, hrecords, h⟩ := SqlResult.bind_eq_ok.mp h
    refine ⟨records, hrecords, ?_⟩
    cases records with
    | nil => exact .inl ⟨rfl, (SqlResult.pure_eq_ok.mp h).symm⟩
    | cons first others => exact .inr ⟨first, others, rfl, h⟩

lemma legible_markOf? (he : LegibleEntity e) (force : Bool) :
    ∀ mark ∈ markOf? e force, Legible mark.field.part := by
  intro mark hmark
  unfold markOf? at hmark
  split_ifs at hmark
  · cases hmark
  · obtain ⟨f, hf, rfl⟩ := Option.map_eq_some_iff.mp hmark
    exact he.fields f (List.mem_of_find?_eq_some hf)

/-- Both ways of deleting records address the same rows. -/
lemma delete_addressAlike (he : Accepted e) {target : Target} (htarget : isRaw target = false)
    {force : Bool} {config : Config} {suffixes : Suffixes} (hsuffix : IsPlainSuffix (suffixes 0))
    (equal : Json → Json → Bool) {direct staged : List Statement}
    (hdirect : (delete e target .common force config suffixes).value = .ok direct)
    (hstaged : (delete e target .tempTable force config suffixes).value = .ok staged) :
    ∃ records, targetRecords e target = .ok records ∧
      AddressAlike ⟨config.dialect, equal⟩ e
        (records.map fun r => groupOf e fun f => r.get? f.name) direct staged := by
  obtain ⟨steps, hplan, rfl⟩ := delete_ok hdirect
  obtain ⟨steps', hplan', rfl⟩ := delete_ok hstaged
  obtain ⟨records, hrecords, hsteps⟩ := deletePlan_ok htarget hplan
  obtain ⟨records', hrecords', hsteps'⟩ := deletePlan_ok htarget hplan'
  obtain rfl := Except.ok.inj (hrecords.symm.trans hrecords')
  refine ⟨records, hrecords, ?_⟩
  rcases hsteps with ⟨rfl, rfl⟩ | ⟨first, others, rfl, h⟩ <;>
    rcases hsteps' with ⟨hnone, rfl⟩ | ⟨first', others', hcons, h'⟩
  · exact .inl ⟨rfl, rfl, rfl⟩
  · cases hcons
  · cases hnone
  cases hcons
  obtain ⟨groups, hgroups, h⟩ := SqlResult.bind_eq_ok.mp h
  obtain ⟨hready, rfl⟩ := (SqlResult.mapM_eq_ok_map fun _ _ => predicateGroup_eq_ok).mp hgroups
  obtain rfl := SqlResult.pure_eq_ok.mp h
  obtain ⟨fields, hfields, h'⟩ := SqlResult.bind_eq_ok.mp h'
  obtain ⟨-, rfl⟩ := predicateFields_eq_ok.mp hfields
  obtain ⟨stagedSteps, hstage, h'⟩ := SqlResult.bind_eq_ok.mp h'
  obtain rfl := SqlResult.pure_eq_ok.mp h'
  have hne : recordFields e first ≠ [] := (hready first List.mem_cons_self).2
  have hfields : ∀ f ∈ recordFields e first, f ∈ e.fields :=
    fun f hf => List.mem_of_mem_filter hf
  have hmark := legible_markOf? he.legible force
  have hgroups : ∀ ms ∈ (first :: others).map (fun r => groupOf e fun f => r.get? f.name),
      ms ≠ [] ∧ LegibleMatches ms := by
    intro ms hms
    obtain ⟨r, hr, rfl⟩ := List.mem_map.mp hms
    refine ⟨?_, legible_groupOf he _⟩
    simpa [← matchesOf_recordFields, matchesOf] using (hready r hr).2
  have htemp := isPlain_tempName e hsuffix
  refine addressAlike_of_stage he ⟨config.dialect, equal⟩ hne hfields
    (map_matchesOf_given he (stage_ok hstage).1) htemp hstage
    ((readsAs_delete he.legible hmark (by simp) hgroups).readWith (by decide))
    ((readsAs_deleteStaged he.legible hmark hne (fun f hf => he.legible.fields f (hfields f hf))
      htemp).readWith (by decide)) (fun temps row => ?_) fun temps row => Engine.reach_change ..
  rw [Engine.reach_change, Engine.hitsIn_groups]

/-! ### Selects -/

lemma constrained_eq_ok {policy : SkipPolicy} {r : Record} {ms : List Match} :
    constrained e policy r = .ok ms ↔
      (unknownName? e r = none ∧ groupOf e (changedValue? policy r) ≠ []) ∧
        ms = groupOf e (changedValue? policy r) := by
  have hgroup : (e.fields.filterMap fun f => (changedValue? policy r f).map (Match.mk f))
      = groupOf e (changedValue? policy r) := rfl
  unfold constrained
  rw [hgroup]
  cases unknownName? e r with
  | some name => simp
  | none =>
    dsimp only
    split_ifs with hnone
    · simp [List.isEmpty_iff.mp hnone]
    · simpa [List.isEmpty_iff.not.mp hnone] using eq_comm

lemma selection_ok (he : LegibleEntity e) {count : Bool} {names? : Option (List String)}
    {selection : Selection}
    (h : (if count then pure .count else (selectedFields e names?).map Selection.fields)
      = .ok selection) : LegibleSelection selection := by
  split_ifs at h
  · obtain rfl := SqlResult.pure_eq_ok.mp h
    trivial
  · obtain ⟨fields, hfields, rfl⟩ := SqlResult.map_eq_ok.mp h
    obtain ⟨hne, hmem⟩ := namedFields_ok (fun _ hf => hf) hfields
    exact ⟨hne, fun f hf => he.fields f (hmem f hf)⟩

lemma select_ok {target : Target} {mode : MatchMode} {count : Bool} {names? : Option (List String)}
    {config : Config} {suffixes : Suffixes} {statements : List Statement} {position : Nat}
    (h : (select e target mode count names? config suffixes).value = .ok (statements, position)) :
    ∃ plan, selectPlan e target mode count names? config suffixes = .ok plan ∧
      statements = plan.steps.map (Step.build config.dialect) := by
  unfold select at h
  cases hplan : selectPlan e target mode count names? config suffixes with
  | error err => simp [hplan] at h
  | ok plan =>
    rw [hplan] at h
    exact ⟨plan, rfl, (Prod.mk.inj (Except.ok.inj h)).1.symm⟩

/-- A select has a legible selection, and a step for the conditions of its records. -/
lemma selectPlan_ok (he : LegibleEntity e) {target : Target} (htarget : isRaw target = false)
    {mode : MatchMode} {count : Bool} {names? : Option (List String)} {config : Config}
    {suffixes : Suffixes} {plan : SelectPlan}
    (h : selectPlan e target mode count names? config suffixes = .ok plan) :
    ∃ selection records first others, targetRecords e target = .ok records ∧
      LegibleSelection selection ∧
      (∀ r ∈ records, groupOf e (changedValue? config.skip r) ≠ []) ∧
      records.map (fun r => groupOf e (changedValue? config.skip r)) = first :: others ∧
      selectGroups e selection mode config.maxDeal (tempName e (suffixes 0)) first others
        = .ok plan := by
  unfold selectPlan at h
  obtain ⟨_, -, h⟩ := SqlResult.bind_eq_ok.mp h
  dsimp only at h
  split at h
  all_goals
    obtain ⟨selection, hselection, h⟩ := SqlResult.bind_eq_ok.mp h
    have hlegible : LegibleSelection selection :=
      @selection_ok e he count names? selection (by simp [*])
    cases target
    case raw => cases htarget
    all_goals
      obtain ⟨records, hrecords, h⟩ := SqlResult.bind_eq_ok.mp h
      obtain ⟨groups, hmap, h⟩ := SqlResult.bind_eq_ok.mp h
      obtain ⟨hready, rfl⟩ := (SqlResult.mapM_eq_ok_map fun _ _ => constrained_eq_ok).mp hmap
      split at h
      · exact absurd h SqlResult.throw_ne_ok
      · next first others hcons =>
        exact ⟨selection, records, first, others, hrecords, hlegible,
          fun r hr => (hready r hr).2, hcons, h⟩

/-- Both ways of selecting records address the same rows. -/
lemma select_addressAlike (he : Accepted e) {target : Target} (htarget : isRaw target = false)
    {count : Bool} {names? : Option (List String)} {config : Config} {suffixes : Suffixes}
    (hsuffix : IsPlainSuffix (suffixes 0)) (equal : Json → Json → Bool)
    {direct staged : List Statement} {position position' : Nat}
    (hdirect : (select e target .common count names? config suffixes).value
      = .ok (direct, position))
    (hstaged : (select e target .tempTable count names? config suffixes).value
      = .ok (staged, position')) :
    ∃ records, targetRecords e target = .ok records ∧
      AddressAlike ⟨config.dialect, equal⟩ e
        (records.map fun r => groupOf e (changedValue? config.skip r)) direct staged := by
  obtain ⟨plan, hplan, rfl⟩ := select_ok hdirect
  obtain ⟨plan', hplan', rfl⟩ := select_ok hstaged
  obtain ⟨selection, records, first, others, hrecords, hselection, hne, hgroups, h⟩ :=
    selectPlan_ok he.legible htarget hplan
  obtain ⟨selection', records', first', others', hrecords', hselection', -, hgroups', h'⟩ :=
    selectPlan_ok he.legible htarget hplan'
  obtain rfl := Except.ok.inj (hrecords.symm.trans hrecords')
  obtain ⟨rfl, rfl⟩ := List.cons.inj (hgroups.symm.trans hgroups')
  refine ⟨records, hrecords, ?_⟩
  obtain rfl := Except.ok.inj h
  obtain ⟨stagedSteps, hstage, h'⟩ := SqlResult.bind_eq_ok.mp h'
  obtain rfl := SqlResult.pure_eq_ok.mp h'
  have hmem : ∀ ms ∈ first :: others,
      ∃ r ∈ records, ms = groupOf e (changedValue? config.skip r) := by
    intro ms hms
    rw [← hgroups] at hms
    obtain ⟨r, hr, rfl⟩ := List.mem_map.mp hms
    exact ⟨r, hr, rfl⟩
  have hlegible : ∀ ms ∈ first :: others, ms ≠ [] ∧ LegibleMatches ms := by
    intro ms hms
    obtain ⟨r, hr, rfl⟩ := hmem ms hms
    exact ⟨hne r hr, legible_groupOf he _⟩
  have hfirst : first.map (·.field) ≠ [] := by
    simpa using (hlegible first List.mem_cons_self).1
  obtain ⟨r, -, hvalues⟩ := hmem first List.mem_cons_self
  have hfields : ∀ f ∈ first.map (·.field), f ∈ e.fields := by
    rw [hvalues, map_field_groupOf]
    exact fun f hf => List.mem_of_mem_filter hf
  have htemp := isPlain_tempName e hsuffix
  have huniform : ((first :: others).map recordOf).map (matchesOf (first.map (·.field)))
      = first :: others := by
    have hexact := (stage_ok hstage).1
    rw [List.forall_mem_map] at hexact
    rw [hvalues] at hexact ⊢
    refine map_matchesOf_recordOf he (fun ms hms => ?_) hexact
    rw [← hvalues] at hms
    obtain ⟨r, -, hr⟩ := hmem ms hms
    exact ⟨_, hr⟩
  rw [hgroups]
  refine addressAlike_of_stage he ⟨config.dialect, equal⟩ hfirst hfields huniform htemp hstage
    ((readsAs_select he.legible hselection (by simp) hlegible).readWith (by decide))
    ((readsAs_selectStaged he.legible hselection' hfirst
      (fun f hf => he.legible.fields f (hfields f hf)) htemp).readWith (by decide))
    (fun temps row => ?_) fun temps row => Engine.reach_query ..
  rw [Engine.reach_branches, Engine.hitsIn_groups]

/-- Deletes and selects address the same rows, as often, in one statement and by a join with a
temporary table: whatever rows there are and whichever values the engine takes for equal. -/
theorem staged_addresses_alike {decl : EntityDecl} (hdecl : decl.build = .ok e) {target : Target}
    (htarget : isRaw target = false) {config : Config} {suffixes : Suffixes}
    (hsuffix : IsPlainSuffix (suffixes 0)) (equal : Json → Json → Bool) :
    (∀ force direct staged,
      (delete e target .common force config suffixes).value = .ok direct →
      (delete e target .tempTable force config suffixes).value = .ok staged →
      ∃ records, targetRecords e target = .ok records ∧
        AddressAlike ⟨config.dialect, equal⟩ e
          (records.map fun r => groupOf e fun f => r.get? f.name) direct staged) ∧
    (∀ count names? direct staged position position',
      (select e target .common count names? config suffixes).value = .ok (direct, position) →
      (select e target .tempTable count names? config suffixes).value = .ok (staged, position') →
      ∃ records, targetRecords e target = .ok records ∧
        AddressAlike ⟨config.dialect, equal⟩ e
          (records.map fun r => groupOf e (changedValue? config.skip r)) direct staged) := by
  have he := accepted_of_build hdecl
  exact ⟨fun _ _ _ hdirect hstaged => delete_addressAlike he htarget hsuffix equal hdirect hstaged,
    fun _ _ _ _ _ _ hdirect hstaged =>
      select_addressAlike he htarget hsuffix equal hdirect hstaged⟩

/-- Conditions on order lines: one asks for lines without a note. -/
def lineConditions : List Record :=
  [[("amount", .int 5), ("note", .null)], [("amount", .int 6), ("note", .string "gift")]]

/-- Nulls count as values, and each record gets a statement of its own. -/
def singly : Config := { Config.standard with skip := ⟨true, false, true⟩, maxDeal := 1 }

/-- A line without a note is addressed once by each of the two ways of deleting or selecting it. -/
theorem staged_addresses_noteless_line :
    orderLineDecl.build = .ok orderLine ∧ isRaw (.records lineConditions) = false ∧
      IsPlainSuffix "0" ∧ ∃ deleted deletedStaged selected selectedStaged position position',
        (delete orderLine (.records lineConditions) .common true singly fun _ => "0").value
          = .ok deleted ∧
        (delete orderLine (.records lineConditions) .tempTable true singly fun _ => "0").value
          = .ok deletedStaged ∧
        (select orderLine (.records lineConditions) .common true none singly fun _ => "0").value
          = .ok (selected, position) ∧
        (select orderLine (.records lineConditions) .tempTable true none singly fun _ => "0").value
          = .ok (selectedStaged, position') ∧
        ∃ groups, AddressAlike ⟨.mysql, fun a b => a == b⟩ orderLine groups deleted deletedStaged ∧
          AddressAlike ⟨.mysql, fun a b => a == b⟩ orderLine groups selected selectedStaged ∧
          groups.countP (Engine.fits ⟨.mysql, fun a b => a == b⟩
            fun c => if c = "amount" then .int 5 else .null) = 1 := by
  have hsuffix : IsPlainSuffix "0" := by decide
  obtain ⟨hdelete, hselect⟩ := @staged_addresses_alike orderLine orderLineDecl build_orderLine
    (.records lineConditions) rfl singly (fun _ => "0") hsuffix fun a b => a == b
  refine ⟨build_orderLine, rfl, hsuffix, _, _, _, _, _, _, rfl, rfl, rfl, rfl, ?_⟩
  obtain ⟨records, hrecords, hdeleted⟩ := hdelete true _ _ rfl rfl
  obtain rfl : lineConditions = records := Except.ok.inj hrecords
  obtain ⟨records, hrecords, hselected⟩ := hselect true none _ _ _ _ rfl rfl
  obtain rfl : lineConditions = records := Except.ok.inj hrecords
  exact ⟨_, hdeleted, hselected, rfl⟩

end Batch

end QueryLoom

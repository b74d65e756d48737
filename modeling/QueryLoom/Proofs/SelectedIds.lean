import Mathlib.Algebra.GroupWithZero.Nat
import QueryLoom.Proofs.DeletedRows

/-!
# Rows selected by ids

An id asks for the rows whose key it is. What it asks of the other fields is left to the skip
policy: a policy that keeps what a record does not mention has all of them be null as well.
-/

namespace QueryLoom.Batch

open Dml

variable {d : Dialect} {e : Entity} {key : Field} {id : Json}

/-! ### What ids ask for -/

/-- What an id asks for under a policy: that it is the key, and maybe that all else is null. -/
def askedBy (e : Entity) (policy : SkipPolicy) (id : Json) : List Match :=
  (e.fields.filter fun f => f.primaryKey || !policy.skipUndefined).map fun f =>
    ⟨f, if f.primaryKey then id else .null⟩

lemma mem_fields_of_primaryKeys (hkey : e.primaryKeys = [key]) :
    key ∈ e.fields ∧ key.primaryKey = true := by
  have hmem : key ∈ e.primaryKeys := hkey ▸ List.mem_singleton_self key
  exact List.mem_filter.mp hmem

lemma eq_key (hkey : e.primaryKeys = [key]) {f : Field} (hf : f ∈ e.fields)
    (hprimary : f.primaryKey = true) : f = key := by
  have hmem : f ∈ e.primaryKeys := List.mem_filter.mpr ⟨hf, hprimary⟩
  rwa [hkey, List.mem_singleton] at hmem

/-- The record of an id stands for what the id asks for. -/
lemma groupOf_id (he : Accepted e) (hkey : e.primaryKeys = [key]) (hid : isGiven (some id) = true)
    (policy : SkipPolicy) :
    groupOf e (changedValue? policy [(key.name, id)]) = askedBy e policy id := by
  obtain ⟨hmem, hprimary⟩ := mem_fields_of_primaryKeys hkey
  have hgiven : id.isNull = false ∧ isBlankValue id = false := by simpa [isGiven] using hid
  rw [groupOf, askedBy, ← List.filterMap_eq_map, List.filterMap_filter]
  refine List.filterMap_congr fun f hf => ?_
  cases hf' : f.primaryKey with
  | true =>
    obtain rfl := eq_key hkey hf hf'
    simp [changedValue?, KeyMap.get?, hgiven, hf']
  | false =>
    have hname : f.name ≠ key.name := by
      intro hname
      rw [he.eq_of_name hf hmem hname, hprimary] at hf'
      cases hf'
    cases hpolicy : policy.skipUndefined <;>
      simp [changedValue?, KeyMap.get?, hname, hpolicy, hf']

lemma unknownName?_id (hkey : e.primaryKeys = [key]) (id : Json) :
    unknownName? e [(key.name, id)] = none := by
  obtain ⟨hmem, -⟩ := mem_fields_of_primaryKeys hkey
  have hfield : (e.field? key.name).isSome = true :=
    List.find?_isSome.mpr ⟨key, hmem, by simp⟩
  rw [unknownName?, List.find?_eq_none]
  intro k hk
  obtain rfl : k = key.name := by simpa [KeyMap.keys] using hk
  rw [Option.isNone_iff_eq_none]
  exact Option.isSome_iff_ne_none.mp hfield

lemma map_field_askedBy (e : Entity) (policy : SkipPolicy) (id : Json) :
    (askedBy e policy id).map (·.field)
      = e.fields.filter fun f => f.primaryKey || !policy.skipUndefined := by
  rw [askedBy, List.map_map]
  exact List.map_id _

lemma askedBy_ne_nil (hkey : e.primaryKeys = [key]) (policy : SkipPolicy) (id : Json) :
    askedBy e policy id ≠ [] := by
  obtain ⟨hmem, hprimary⟩ := mem_fields_of_primaryKeys hkey
  intro hnil
  have hfields := map_field_askedBy e policy id
  rw [hnil, List.map_nil, eq_comm, List.filter_eq_nil_iff] at hfields
  exact hfields key hmem (by simp [hprimary])

/-- Nothing but the key is asked for exactly if what is not mentioned is left out, or there is
nothing else. -/
lemma length_askedBy_eq_one_iff (hkey : e.primaryKeys = [key]) (policy : SkipPolicy) (id : Json) :
    (askedBy e policy id).length = 1 ↔ policy.skipUndefined = true ∨ e.fields = [key] := by
  obtain ⟨hmem, -⟩ := mem_fields_of_primaryKeys hkey
  rw [askedBy, List.length_map]
  cases hpolicy : policy.skipUndefined with
  | true =>
    have hkeys : (e.fields.filter fun f => f.primaryKey || !true) = [key] := by
      simpa [Entity.primaryKeys] using hkey
    rw [hkeys]
    simp
  | false =>
    simp only [Bool.not_false, Bool.or_true, List.filter_true, Bool.false_eq_true, false_or]
    rw [List.length_eq_one_iff]
    constructor
    · rintro ⟨f, hf⟩
      rw [hf, List.mem_singleton] at hmem
      rw [hf, hmem]
    · exact fun h => ⟨key, h⟩

lemma askedBy_eq_of_length (hkey : e.primaryKeys = [key]) {policy : SkipPolicy}
    (h : (askedBy e policy id).length = 1) : askedBy e policy id = [⟨key, id⟩] := by
  obtain ⟨hmem, hprimary⟩ := mem_fields_of_primaryKeys hkey
  have hasked : ⟨key, id⟩ ∈ askedBy e policy id :=
    List.mem_map.mpr ⟨key, List.mem_filter.mpr ⟨hmem, by simp [hprimary]⟩, by simp [hprimary]⟩
  obtain ⟨m, hm⟩ := List.length_eq_one_iff.mp h
  rw [hm, List.mem_singleton] at hasked
  rw [hm, hasked]

/-! ### Statements that select by groups of conditions -/

/-- Statements that select the rows of some groups of conditions, and the position of the one that
returns them: a selection for each group, with a test for each of its conditions, or a join by the
columns of a temporary table, into which a row with the values of each group has been inserted. -/
inductive SelectsBy (e : Entity) (groups : List (List Match)) :
    MatchMode → List Command → Nat → Prop
  | common (columns? : Option (List (IdentPart × Option IdentPart))) :
    SelectsBy e groups .common
      [.query (groups.map fun ms =>
        ⟨columns?, e.table.parts, .groups [ms.map (matchTest aliased)]⟩)] 0
  | tempTable (columns? : Option (List (IdentPart × Option IdentPart))) {temp : IdentPart}
      {fields : List Field} {fills : List Command}
      (hfields : ∀ ms ∈ groups, ms.map (·.field) = fields)
      (hfills : ∀ fill ∈ fills, ∃ columns rows, fill = .insert false [temp] columns rows none)
      (hfilled : fills.flatMap Command.written
        = groups.map fun ms => ⟨ms.map (·.field.part), ms.map fun m => .value m.value⟩) :
    SelectsBy e groups .tempTable
      (.drop temp :: .create temp :: (fills ++
        [.query [⟨columns?, e.table.parts, .joined temp (fields.map (sameTest aliased))⟩],
          .drop temp]))
      (fills.length + 2)

/-- How many tests a selection of a single group has. -/
def querySize (q : Query) : Nat :=
  match q.scope with
  | .groups groups => (groups.map List.length).sum
  | .joined _ on => on.length

/-- How many conditions each group has is seen from the statements. -/
lemma SelectsBy.map_length {groups groups' : List (List Match)} {mode : MatchMode}
    {commands : List Command} {position : Nat} (h : SelectsBy e groups mode commands position)
    (h' : SelectsBy e groups' mode commands position) :
    groups.map List.length = groups'.map List.length := by
  cases h with
  | common columns? =>
    generalize hcommands : [Command.query (groups.map fun ms =>
      ⟨columns?, e.table.parts, .groups [ms.map (matchTest aliased)]⟩)] = commands at h'
    cases h' with
    | common columns'? =>
      have hqueries := Command.query.inj (List.head_eq_of_cons_eq hcommands)
      have hsizes := congrArg (List.map querySize) hqueries
      simpa [querySize, Function.comp_def] using hsizes
  | @tempTable columns? temp fields fills hfields hfills hfilled =>
    generalize hcommands : (Command.drop temp :: .create temp :: (fills ++
      [.query [⟨columns?, e.table.parts, .joined temp (fields.map (sameTest aliased))⟩],
        .drop temp])) = commands at h'
    generalize fills.length + 2 = position at h'
    cases h' with
    | @tempTable _ _ _ fills' _ _ hfilled' =>
      have hrest := List.tail_eq_of_cons_eq (List.tail_eq_of_cons_eq hcommands)
      obtain ⟨rfl, -⟩ := List.append_inj' hrest rfl
      have hsizes := congrArg (List.map fun t : Tuple => t.columns.length)
        (hfilled.symm.trans hfilled')
      simpa [Function.comp_def] using hsizes

/-! ### Plans -/

lemma hasExactly_recordOf {group : List Match} (hnodup : (group.map (·.field.name)).Nodup) :
    hasExactly (group.map (·.field)) (recordOf group) = true := by
  have hkeys : (recordOf group).keys.Nodup := (KeyMap.ascending_ofEntries _).nodup
  have hperm : (recordOf group).keys.Perm (group.map (·.field.name)) := by
    rw [List.perm_ext_iff_of_nodup hkeys hnodup]
    intro name
    rw [← KeyMap.has_eq_true]
    exact has_recordOf hnodup
  have hlength := hperm.length_eq
  rw [KeyMap.keys, List.length_map, List.length_map] at hlength
  rw [hasExactly, Bool.and_eq_true, beq_iff_eq, List.length_map, List.all_eq_true]
  refine ⟨hlength, fun f hf => ?_⟩
  obtain ⟨m, hm, rfl⟩ := List.mem_map.mp hf
  exact (has_recordOf hnodup).mpr (List.mem_map_of_mem hm)

/-- The records of groups on the same fields hold these, and the groups can be read off them. -/
lemma records_of_groups {fields : List Field} (hnames : (fields.map (·.name)).Nodup)
    {groups : List (List Match)} (hgroups : ∀ ms ∈ groups, ms.map (·.field) = fields) :
    (∀ r ∈ groups.map recordOf, hasExactly fields r = true) ∧
      (groups.map recordOf).map (matchesOf fields) = groups := by
  have hnodup : ∀ ms ∈ groups, (ms.map (·.field.name)).Nodup := by
    intro ms hms
    rwa [← hgroups ms hms, List.map_map] at hnames
  constructor
  · rw [List.forall_mem_map]
    intro ms hms
    rw [← hgroups ms hms]
    exact hasExactly_recordOf (hnodup ms hms)
  · rw [List.map_map]
    conv_rhs => rw [← List.map_id groups]
    refine List.map_congr_left fun ms hms => ?_
    rw [Function.comp_apply, ← hgroups ms hms]
    exact matchesOf_recordOf (hnodup ms hms)

/-- Groups of conditions on the same fields are selected by statements that say so. -/
lemma reads_selectGroups (he : Accepted e) {selection : Selection}
    (hselection : LegibleSelection selection) {fields : List Field} (hne : fields ≠ [])
    (hfields : fields.Sublist e.fields) {first : List Match} {others : List (List Match)}
    (hgroups : ∀ ms ∈ first :: others, ms.map (·.field) = fields) (mode : MatchMode) (size : Nat)
    {temp : String} (htemp : Ident.isPlain temp.toList = true) :
    ∃ plan commands, selectGroups e selection mode size temp first others = .ok plan ∧
      List.Forall₂ (Reads d) plan.steps commands ∧
      SelectsBy e (first :: others) mode commands plan.queryStep := by
  have hlegible : ∀ f ∈ fields, Legible f.part := fun f hf =>
    he.legible.fields f (hfields.subset hf)
  cases mode with
  | common =>
    have hready : ∀ ms ∈ first :: others, ms ≠ [] ∧ LegibleMatches ms := by
      intro ms hms
      have hms' := hgroups ms hms
      refine ⟨fun hnil => hne (by rw [← hms', hnil]; rfl), fun m hm => ?_⟩
      exact hlegible m.field (hms' ▸ List.mem_map_of_mem hm)
    exact ⟨_, _, rfl,
      .cons ((readsAs_select he.legible hselection (by simp) hready).readWith (by decide)) .nil,
      .common _⟩
  | tempTable =>
    obtain ⟨hexact, hvalues⟩ := records_of_groups (he.names_nodup.sublist (hfields.map _)) hgroups
    obtain ⟨staged, hstage⟩ := @stage_of_hasExactly temp _ _ hexact size
    have hplan : selectGroups e selection .tempTable size temp first others
        = .ok ⟨staged ++ [.selectStaged e selection fields temp, .dropTemp temp],
            staged.length⟩ := by
      rw [← hgroups first List.mem_cons_self] at hstage ⊢
      exact SqlResult.bind_eq_ok.mpr ⟨staged, hstage, rfl⟩
    have hreads := reads_stage (d := d) htemp hne hlegible hstage
    have hquery : Reads d (.selectStaged e selection fields temp) (.query
        [⟨columnsOf selection, e.table.parts,
          .joined (.plain temp) (fields.map (sameTest aliased))⟩]) :=
      (readsAs_selectStaged he.legible hselection hne hlegible htemp).readWith (by decide)
    have hdrop : Reads d (.dropTemp temp) (.drop (.plain temp)) :=
      (readsAs_dropTemp htemp).readWith (by decide)
    refine ⟨_, _, hplan, List.rel_append hreads (.cons hquery (.cons hdrop .nil)), ?_⟩
    have hposition : staged.length =
        ((chunks size ((first :: others).map recordOf)).map (fillCommand temp fields)).length + 2 :=
      hreads.length_eq
    dsimp only
    rw [hposition]
    refine .tempTable _ hgroups (fun fill hfill => ?_) ?_
    · obtain ⟨chunk, -, rfl⟩ := List.mem_map.mp hfill
      exact ⟨_, _, rfl⟩
    · rw [written_fillCommands, flatten_chunks, hvalues]

/-! ### Selects by ids -/

lemma exists_fields {names : List String} (h : ∀ n ∈ names, (e.field? n).isSome = true) :
    ∃ fields : List Field, List.Forall₂ (fun n f => e.field? n = some f) names fields := by
  induction names with
  | nil => exact ⟨[], .nil⟩
  | cons n names ih =>
    obtain ⟨f, hf⟩ := Option.isSome_iff_exists.mp (h n List.mem_cons_self)
    obtain ⟨fields, hfields⟩ := ih fun m hm => h m (List.mem_cons_of_mem n hm)
    exact ⟨f :: fields, .cons hf hfields⟩

/-- Names of fields, or none at all, are not refused as columns of a selection. -/
lemma exists_selectedFields {names? : Option (List String)} (hne : e.fields ≠ [])
    (hnames : ∀ names ∈ names?, names ≠ [] ∧ ∀ n ∈ names, (e.field? n).isSome = true) :
    ∃ fields, selectedFields e names? = .ok fields := by
  cases names? with
  | none =>
    refine ⟨e.fields, SqlResult.bind_eq_ok.mpr ⟨e.fields, rfl, ?_⟩⟩
    simp [hne, pure, Except.pure]
  | some names =>
    obtain ⟨hsome, hknown⟩ := hnames names rfl
    obtain ⟨fields, hfields⟩ := exists_fields hknown
    have hkept : fields ≠ [] := by
      rintro rfl
      exact hsome (List.forall₂_nil_right_iff.mp hfields)
    refine ⟨fields, SqlResult.bind_eq_ok.mpr ⟨fields, SqlResult.mapM_eq_ok.mpr ?_, ?_⟩⟩
    · exact hfields.imp fun n f hf => by rw [hf]
    · simp [hkept, pure, Except.pure]

lemma exists_selection (count : Bool) {names? : Option (List String)} (hne : e.fields ≠ [])
    (hnames : ∀ names ∈ names?, names ≠ [] ∧ ∀ n ∈ names, (e.field? n).isSome = true) :
    ∃ selection, (if count then pure .count else (selectedFields e names?).map Selection.fields)
      = (.ok selection : SqlResult Selection) := by
  cases count with
  | true => exact ⟨.count, rfl⟩
  | false =>
    obtain ⟨fields, hfields⟩ := exists_selectedFields hne hnames
    exact ⟨.fields fields, SqlResult.map_eq_ok.mpr ⟨fields, hfields, rfl⟩⟩

lemma selectPlan_ids {ids : List Json} {mode : MatchMode} {count : Bool}
    {names? : Option (List String)} {config : Config} {suffixes : Suffixes}
    {selection : Selection} {records : List Record} {first : List Match}
    {others : List (List Match)} {plan : SelectPlan} (hsize : config.maxDeal ≠ 0)
    (hselection : (if count then pure .count
      else (selectedFields e names?).map Selection.fields) = .ok selection)
    (hrecords : targetRecords e (.ids ids) = .ok records)
    (hgroups : records.mapM (constrained e config.skip) = .ok (first :: others))
    (hplan : selectGroups e selection mode config.maxDeal (tempName e (suffixes 0)) first others
      = .ok plan) :
    selectPlan e (.ids ids) mode count names? config suffixes = .ok plan := by
  refine SqlResult.bind_eq_ok.mpr ⟨(), validate_eq_ok.mpr hsize, ?_⟩
  cases count <;>
    exact SqlResult.bind_eq_ok.mpr ⟨selection, hselection, SqlResult.bind_eq_ok.mpr ⟨records,
      hrecords, SqlResult.bind_eq_ok.mpr ⟨first :: others, hgroups, hplan⟩⟩⟩

lemma targetRecords_ids (hkey : e.primaryKeys = [key]) (ids : List Json) :
    targetRecords e (.ids ids) = .ok (ids.map fun id => [(key.name, id)]) := by
  rw [targetRecords, hkey]

/-- No record of an id is refused. -/
lemma constrained_ids (he : Accepted e) (hkey : e.primaryKeys = [key]) (policy : SkipPolicy)
    {ids : List Json} (hids : ∀ id ∈ ids, isGiven (some id) = true) :
    (ids.map fun id => [(key.name, id)]).mapM (constrained e policy)
      = .ok (ids.map (askedBy e policy)) := by
  rw [SqlResult.mapM_eq_ok_map fun _ _ => constrained_eq_ok, List.map_map]
  refine ⟨?_, List.map_congr_left fun id hid => (groupOf_id he hkey (hids id hid) _).symm⟩
  intro r hr
  obtain ⟨id, hid, rfl⟩ := List.mem_map.mp hr
  rw [groupOf_id he hkey (hids id hid)]
  exact ⟨unknownName?_id hkey id, askedBy_ne_nil hkey _ id⟩

/-- Statements that select by what the ids ask for select by the ids alone exactly if that is all
the ids ask for. -/
lemma selectsBy_keys_iff (hkey : e.primaryKeys = [key]) {policy : SkipPolicy} {ids : List Json}
    (hne : ids ≠ []) {mode : MatchMode} {commands : List Command} {position : Nat}
    (h : SelectsBy e (ids.map (askedBy e policy)) mode commands position) :
    SelectsBy e (ids.map fun id => [⟨key, id⟩]) mode commands position ↔
      policy.skipUndefined = true ∨ e.fields = [key] := by
  constructor
  · intro hkeys
    have hsizes := h.map_length hkeys
    obtain ⟨id, rest, rfl⟩ := List.exists_cons_of_ne_nil hne
    exact (length_askedBy_eq_one_iff hkey _ id).mp (List.head_eq_of_cons_eq hsizes)
  · intro honly
    have hkeys : ids.map (askedBy e policy) = ids.map fun id => [⟨key, id⟩] :=
      List.map_congr_left fun id _ =>
        askedBy_eq_of_length hkey ((length_askedBy_eq_one_iff hkey _ id).mpr honly)
    rwa [← hkeys]

/-- A select by ids is not refused, and its statements ask for nothing but the ids exactly if the
skip policy leaves out what a record does not mention, or the key is the only field. Otherwise they
ask for null in all other columns. -/
theorem select_ids_asks {decl : EntityDecl} (hdecl : decl.build = .ok e)
    (hkey : e.primaryKeys = [key]) {ids : List Json} (hne : ids ≠ [])
    (hids : ∀ id ∈ ids, isGiven (some id) = true) (mode : MatchMode) (count : Bool)
    {names? : Option (List String)}
    (hnames : ∀ names ∈ names?, names ≠ [] ∧ ∀ n ∈ names, (e.field? n).isSome = true)
    {config : Config} (hsize : config.maxDeal ≠ 0) {suffixes : Suffixes}
    (hsuffix : IsPlainSuffix (suffixes 0)) :
    ∃ statements commands position,
      (select e (.ids ids) mode count names? config suffixes).value = .ok (statements, position) ∧
      List.Forall₂ (fun s c => readStatement config.dialect s = some c) statements commands ∧
      SelectsBy e (ids.map (askedBy e config.skip)) mode commands position ∧
      (SelectsBy e (ids.map fun id => [⟨key, id⟩]) mode commands position ↔
        config.skip.skipUndefined = true ∨ e.fields = [key]) := by
  have he := accepted_of_build hdecl
  obtain ⟨hmem, hprimary⟩ := mem_fields_of_primaryKeys hkey
  obtain ⟨selection, hselection⟩ := exists_selection count (List.ne_nil_of_mem hmem) hnames
  have hconstrained := constrained_ids he hkey config.skip hids
  obtain ⟨first, others, hasked⟩ := List.exists_cons_of_ne_nil
    (show ids.map (askedBy e config.skip) ≠ [] by simpa using hne)
  have hgroups : ∀ ms ∈ first :: others, ms.map (·.field)
      = e.fields.filter fun f => f.primaryKey || !config.skip.skipUndefined := by
    rw [← hasked, List.forall_mem_map]
    exact fun id _ => map_field_askedBy e config.skip id
  have hfields : (e.fields.filter fun f => f.primaryKey || !config.skip.skipUndefined) ≠ [] :=
    List.ne_nil_of_mem (List.mem_filter.mpr ⟨hmem, by simp [hprimary]⟩)
  obtain ⟨plan, commands, hplan, hread, hselects⟩ := reads_selectGroups (d := config.dialect) he
    (selection_ok he.legible hselection) hfields List.filter_sublist hgroups mode config.maxDeal
    (isPlain_tempName e hsuffix)
  rw [hasked] at hconstrained
  rw [← hasked] at hselects
  have hselect := selectPlan_ids hsize hselection (targetRecords_ids hkey ids) hconstrained hplan
  refine ⟨plan.steps.map (Step.build config.dialect), commands, plan.queryStep, ?_, ?_, hselects,
    selectsBy_keys_iff hkey hne hselects⟩
  · rw [select, hselect]
  · rwa [List.forall₂_map_left_iff]

/-- Under the standard policy two notes are selected by their ids alone. -/
theorem select_ids_asks_notes :
    ∃ key statements commands position, note.primaryKeys = [key] ∧
      (select note (.ids [.int 1, .int 2]) .tempTable false none .standard fun _ => "0").value
        = .ok (statements, position) ∧
      SelectsBy note [[⟨key, .int 1⟩], [⟨key, .int 2⟩]] .tempTable commands position := by
  have hids : ∀ id ∈ [Json.int 1, .int 2], isGiven (some id) = true := by
    intro id hid
    rcases List.mem_pair.mp hid with rfl | rfl <;> rfl
  have hsuffix : IsPlainSuffix "0" := by decide
  obtain ⟨statements, commands, position, hselect, -, -, hkeys⟩ := @select_ids_asks note _ noteDecl
    build_note rfl [.int 1, .int 2] (by simp) hids .tempTable false none (by simp) .standard
    (by decide) (fun _ => "0") hsuffix
  exact ⟨_, statements, commands, position, rfl, hselect, hkeys.mpr (.inl rfl)⟩

/-- Under a policy that keeps what is not mentioned, the other columns of a note have to be null. -/
theorem select_ids_asks_null :
    (select note (.ids [.int 1]) .common true none
        { Config.standard with skip := ⟨false, true, true⟩ } fun _ => "0").value
      = .ok ([⟨"SELECT COUNT(1) ct FROM note a WHERE a.id = ? AND a.body IS NULL AND " ++
          "a.gone IS NULL", [.int 1]⟩], 0) := by
  rfl

end QueryLoom.Batch

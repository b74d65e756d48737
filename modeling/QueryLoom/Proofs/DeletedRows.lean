import QueryLoom.Proofs.AddressedRows
import QueryLoom.Proofs.LetterCase

/-!
# Rows that are deleted

A delete touches the table of its entity in one statement, which removes rows or does nothing but
mark them. These are rows that were asked for: a record that names no field, which would ask for
all rows, is refused.
-/

namespace QueryLoom

open Dml

namespace Dml

/-! ### Tables that are touched -/

/-- The table that a statement writes to, creates or drops. -/
def Command.target? : Command → Option (List IdentPart)
  | .change _ table _ | .insert _ table _ _ _ | .insertSelected table _ _ => some table
  | .create temp | .drop temp => some [temp]
  | .query _ => none

/-- The name of a table without its schema, in small letters. -/
def tableKey (table : List IdentPart) : String := columnKey (Ident.last ⟨table⟩)

/-- Whether a statement writes to, creates or drops a table that may be the given one: their names
agree up to the schema and the case of letters. -/
def Command.touches (table : List IdentPart) (c : Command) : Bool :=
  c.target?.any fun t => tableKey t = tableKey table

/-- Whether a statement changes or removes rows. -/
def Command.isChange : Command → Bool
  | .change .. => true
  | _ => false

end Dml

namespace Batch

variable {d : Dialect} {e : Entity} {r : Record}

/-! ### Names of temporary tables -/

lemma isPlain_columnKey (s : String) :
    Ident.isPlain (columnKey s).toList = Ident.isPlain s.toList := by
  have hchar (c : Char) : Ident.isPlainChar c.toLower = Ident.isPlainChar c := by
    rcases Text.toLower_cases c with h | ⟨h, h', -⟩
    · rw [h]
    · simp [Ident.isPlainChar, Text.isAsciiAlphanumeric, h, h']
  have hstart (c : Char) : Ident.isPlainStart c.toLower = Ident.isPlainStart c := by
    rcases Text.toLower_cases c with h | ⟨h, h', -⟩
    · rw [h]
    · simp [Ident.isPlainStart, h, h']
  rw [columnKey, String.toList_ofList]
  cases s.toList with
  | nil => rfl
  | cons c cs => simp [Ident.isPlain, hstart, hchar, Function.comp_def]

lemma length_columnKey (s : String) : (columnKey s).toList.length = s.toList.length := by
  rw [columnKey, String.toList_ofList, List.length_map]

/-- The name of a temporary table is not that of the table of the entity in any case of letters:
either it is longer, or only it is a plain word. -/
lemma columnKey_tempName_ne (e : Entity) {suffix : String} (h : IsPlainSuffix suffix) :
    columnKey (tempName e suffix) ≠ columnKey e.tableBase := by
  intro hkey
  have hplain : Ident.isPlain e.tableBase.toList = true := by
    rw [← isPlain_columnKey, ← hkey, isPlain_columnKey]
    exact isPlain_tempName e h
  have hlength : (tempName e suffix).toList.length = e.tableBase.toList.length := by
    rw [← length_columnKey, hkey, length_columnKey]
  have hunderscore : "_".toList.length = 1 := rfl
  rw [tempName, if_pos hplain] at hlength
  simp only [toString_text, String.toList_append, List.length_append, hunderscore] at hlength
  omega

lemma touches_eq_false {suffix : String} (h : IsPlainSuffix suffix) {c : Command}
    (hc : c.target? = some [.plain (tempName e suffix)]) : c.touches e.table.parts = false := by
  rw [Command.touches, hc, Option.any_some, decide_eq_false_iff_not]
  exact columnKey_tempName_ne e h

lemma touches_change (action : Action) (table : List IdentPart) (s : Scope) :
    (Command.change action table s).touches table = true := by
  simp [Command.touches, Command.target?]

/-- Staging touches no table but the temporary one, and changes no rows. -/
lemma stageCommands_target {temp : String} {fields : List Field} {records : List Record}
    {size : Nat} {c : Command} (hc : c ∈ stageCommands temp fields records size) :
    c.target? = some [.plain temp] ∧ c.isChange = false := by
  rw [stageCommands, List.mem_cons, List.mem_cons, List.mem_map] at hc
  rcases hc with rfl | rfl | ⟨chunk, -, rfl⟩ <;> exact ⟨rfl, rfl⟩

/-! ### Records that ask for rows -/

/-- A record that asks for rows: it has a value for a field, and all of its names are fields. -/
structure Asks (e : Entity) (r : Record) : Prop where
  fields_ne : recordFields e r ≠ []
  known : ∀ k ∈ r.keys, k ∈ (recordFields e r).map (·.name)

lemma mem_recordFields {k : String} (hk : k ∈ r.keys) :
    k ∈ (recordFields e r).map (·.name) ↔ (e.field? k).isSome = true := by
  rw [Entity.field?, List.find?_isSome, List.mem_map]
  constructor
  · rintro ⟨f, hf, rfl⟩
    exact ⟨f, List.mem_of_mem_filter hf, by simp⟩
  · rintro ⟨f, hf, hname⟩
    obtain rfl : f.name = k := by simpa using hname
    exact ⟨f, List.mem_filter.mpr ⟨hf, KeyMap.has_eq_true.mpr hk⟩, rfl⟩

lemma asks_iff : (unknownName? e r = none ∧ recordFields e r ≠ []) ↔ Asks e r := by
  have hunknown : unknownName? e r = none ↔ ∀ k ∈ r.keys, k ∈ (recordFields e r).map (·.name) := by
    rw [unknownName?, List.find?_eq_none]
    refine forall₂_congr fun k hk => ?_
    rw [mem_recordFields hk]
    cases e.field? k <;> simp
  rw [hunknown]
  exact ⟨fun h => ⟨h.2, h.1⟩, fun h => ⟨h.known, h.fields_ne⟩⟩

/-- A record without names, or with a name that is no field, asks for nothing. -/
lemma not_asks (h : r.keys = [] ∨ ∃ k ∈ r.keys, e.field? k = none) : ¬ Asks e r := by
  intro hr
  rcases h with hnone | ⟨k, hk, hfield⟩
  · refine hr.fields_ne (List.filter_eq_nil_iff.mpr fun f _ hf => ?_)
    have hmem := KeyMap.has_eq_true.mp hf
    rw [hnone] at hmem
    cases hmem
  · have hsome := (mem_recordFields hk).mp (hr.known k hk)
    rw [hfield] at hsome
    cases hsome

/-- A record with exactly the fields of one that asks for rows asks for rows by the same fields. -/
lemma Asks.of_hasExactly (he : Accepted e) {first : Record} (hfirst : Asks e first)
    (h : hasExactly (recordFields e first) r = true) :
    Asks e r ∧ recordFields e r = recordFields e first := by
  have hfields : recordFields e r = recordFields e first :=
    filter_eq_of_hasExactly he h fun _ _ => rfl
  have hnodup : ((recordFields e first).map (·.name)).Nodup :=
    he.names_nodup.sublist (List.filter_sublist.map _)
  refine ⟨⟨hfields ▸ hfirst.fields_ne, fun k hk => ?_⟩, hfields⟩
  rw [hfields]
  exact (has_of_hasExactly hnodup h).mp (KeyMap.has_eq_true.mpr hk)

lemma hasExactly_recordFields (hr : Asks e r) (hnodup : r.keys.Nodup) (he : Accepted e) :
    hasExactly (recordFields e r) r = true := by
  have hnames : ((recordFields e r).map (·.name)).Nodup :=
    he.names_nodup.sublist (List.filter_sublist.map _)
  have hsubset : (recordFields e r).map (·.name) ⊆ r.keys := by
    intro k hk
    obtain ⟨f, hf, rfl⟩ := List.mem_map.mp hk
    exact KeyMap.has_eq_true.mp (List.mem_filter.mp hf).2
  have hle := (List.subperm_of_subset hnames hsubset).length_le
  have hge := (List.subperm_of_subset hnodup hr.known).length_le
  rw [hasExactly, Bool.and_eq_true, beq_iff_eq, List.all_eq_true]
  refine ⟨?_, fun f hf => (List.mem_filter.mp hf).2⟩
  rw [KeyMap.keys, List.length_map, List.length_map] at hle hge
  omega

/-! ### Plans -/

lemma stage_of_hasExactly {temp : String} {fields : List Field} {records : List Record}
    (h : ∀ r ∈ records, hasExactly fields r = true) (size : Nat) :
    ∃ steps, stage temp fields records size = .ok steps := by
  have hnone : records.find? (fun r => !hasExactly fields r) = none := by
    rw [List.find?_eq_none]
    intro r hr
    simp [h r hr]
  rw [stage, hnone]
  exact ⟨_, rfl⟩

/-- What a delete does to rows: it removes them if that is forced or no field marks deleted rows,
and otherwise it sets nothing but that field, to its declared mark. -/
inductive ActsBy (e : Entity) (force : Bool) : Action → Prop
  | removes (h : force = true ∨ e.logicalDelete? = none) : ActsBy e force .remove
  | marks {f : Field} {mark : Json} (hforce : force = false) (hf : e.logicalDelete? = some f)
      (hmark : f.deleted? = some mark) : ActsBy e force (.set [⟨f.part, .value mark⟩])

lemma actsBy_markOf? (e : Entity) (force : Bool) :
    ActsBy e force (markAction (markOf? e force)) := by
  cases force with
  | true => exact .removes (.inl rfl)
  | false =>
    cases hf : e.logicalDelete? with
    | none =>
      rw [markOf?, hf]
      exact .removes (.inr hf)
    | some f =>
      have hsome : f.deleted?.isSome = true := by simpa using List.find?_some hf
      obtain ⟨mark, hmark⟩ := Option.isSome_iff_exists.mp hsome
      rw [markOf?, hf, if_neg Bool.false_ne_true, Option.map_some, hmark]
      exact .marks rfl hf hmark

/-- Which rows are deleted in a scope by some statements. Directly: a group of tests for each
record in order, one for each of its fields. By a join: tests of all columns of a temporary table,
which are the fields of each record; the table has been filled with their values. -/
inductive ScopeOf (d : Dialect) (e : Entity) (records : List Record) (size : Nat) :
    MatchMode → Scope → List Command → Prop
  | common (commands : List Command) : ScopeOf d e records size .common
      (.groups (records.map fun r => (matchesOf (recordFields e r) r).map (matchTest []))) commands
  | tempTable {temp : String} {fields : List Field} {commands : List Command}
      (hfields : ∀ r ∈ records, recordFields e r = fields)
      (hstaged : stageCommands temp fields records size <+: commands) :
      ScopeOf d e records size .tempTable
        (.joined (.plain temp) (fields.map (sameTest (joinedOwner d e)))) commands

/-- Statements that delete the rows of some records: one of them touches the table of the entity,
and only this one changes or removes rows. -/
structure Deletes (d : Dialect) (e : Entity) (records : List Record) (mode : MatchMode)
    (force : Bool) (size : Nat) (commands : List Command) (action : Action) (scope : Scope) :
    Prop where
  acts : ActsBy e force action
  selects : ScopeOf d e records size mode scope commands
  touching : commands.filter (·.touches e.table.parts) = [.change action e.table.parts scope]
  changing : commands.filter (·.isChange) = [.change action e.table.parts scope]

lemma deletes_common (records : List Record) (force : Bool) (size : Nat) {action : Action}
    (haction : ActsBy e force action) {scope : Scope}
    (hscope : scope = .groups
      (records.map fun r => (matchesOf (recordFields e r) r).map (matchTest []))) :
    Deletes d e records .common force size [.change action e.table.parts scope] action scope := by
  subst hscope
  refine ⟨haction, .common _, ?_, rfl⟩
  rw [List.filter_cons_of_pos (touches_change ..), List.filter_nil]

lemma deletes_tempTable {records : List Record} {fields : List Field}
    (hfields : ∀ r ∈ records, recordFields e r = fields) {suffix : String}
    (hsuffix : IsPlainSuffix suffix) {force : Bool} (size : Nat) {action : Action}
    (haction : ActsBy e force action) {scope : Scope}
    (hscope : scope = .joined (.plain (tempName e suffix))
      (fields.map (sameTest (joinedOwner d e)))) :
    Deletes d e records .tempTable force size
      (stageCommands (tempName e suffix) fields records size ++
        [.change action e.table.parts scope, .drop (.plain (tempName e suffix))])
      action scope := by
  subst hscope
  have htarget : ∀ c ∈ stageCommands (tempName e suffix) fields records size,
      c.touches e.table.parts = false ∧ c.isChange = false := fun c hc =>
    ⟨touches_eq_false hsuffix (stageCommands_target hc).1, (stageCommands_target hc).2⟩
  have hdrop : (Command.drop (.plain (tempName e suffix))).touches e.table.parts = false :=
    touches_eq_false hsuffix rfl
  refine ⟨haction, .tempTable hfields (List.prefix_append _ _), ?_, ?_⟩
  · rw [List.filter_append, List.filter_eq_nil_iff.mpr fun c hc => by simp [htarget c hc],
      List.nil_append, List.filter_cons_of_pos (touches_change ..),
      List.filter_cons_of_neg (by simp [hdrop]), List.filter_nil]
  · rw [List.filter_append, List.filter_eq_nil_iff.mpr fun c hc => by simp [htarget c hc]]
    rfl

/-- The steps for some records are read as statements that delete their rows. -/
lemma reads_deleteRecords (he : Accepted e) {mode : MatchMode} (force : Bool) {size : Nat}
    {suffix : String} (hsuffix : IsPlainSuffix suffix) {first : Record} {others : List Record}
    {steps : List Step} (h : deleteRecords e (markOf? e force) mode size (tempName e suffix)
      first others = .ok steps) :
    (∀ r ∈ first :: others, Asks e r) ∧ ∃ commands action scope,
      List.Forall₂ (Reads d) steps commands ∧
      Deletes d e (first :: others) mode force size commands action scope := by
  have hmark := legible_markOf? he.legible force
  have haction := actsBy_markOf? e force
  have hlegible (r : Record) : ∀ f ∈ recordFields e r, Legible f.part := fun f hf =>
    he.legible.fields f (List.mem_of_mem_filter hf)
  cases mode with
  | common =>
    obtain ⟨groups, hgroups, h⟩ := SqlResult.bind_eq_ok.mp h
    obtain ⟨hready, rfl⟩ := (SqlResult.mapM_eq_ok_map fun _ _ => predicateGroup_eq_ok).mp hgroups
    obtain rfl := SqlResult.pure_eq_ok.mp h
    have hasks : ∀ r ∈ first :: others, Asks e r := fun r hr => asks_iff.mp (hready r hr)
    simp only [← matchesOf_recordFields]
    refine ⟨hasks, _, _, _, .cons ((readsAs_delete he.legible hmark (by simp) ?_).readWith
      (by decide)) .nil, deletes_common _ force size haction (by rw [List.map_map]; rfl)⟩
    intro group hgroup
    obtain ⟨r, hr, rfl⟩ := List.mem_map.mp hgroup
    refine ⟨by simpa [matchesOf] using (hasks r hr).fields_ne, fun m hm => ?_⟩
    obtain ⟨f, hf, rfl⟩ := List.mem_map.mp hm
    exact hlegible r f hf
  | tempTable =>
    obtain ⟨fields, hpredicate, h⟩ := SqlResult.bind_eq_ok.mp h
    obtain ⟨hready, rfl⟩ := predicateFields_eq_ok.mp hpredicate
    obtain ⟨staged, hstage, h⟩ := SqlResult.bind_eq_ok.mp h
    obtain rfl := SqlResult.pure_eq_ok.mp h
    have hfirst : Asks e first := asks_iff.mp hready
    have hall := fun r hr => hfirst.of_hasExactly he ((stage_ok hstage).1 r hr)
    have htemp := isPlain_tempName e hsuffix
    refine ⟨fun r hr => (hall r hr).1, _, _, _, List.rel_append
      (reads_stage htemp hready.2 (hlegible first) hstage) (.cons ?_ (.cons ?_ .nil)),
      deletes_tempTable (fun r hr => (hall r hr).2) hsuffix size haction rfl⟩
    · exact (readsAs_deleteStaged he.legible hmark hready.2 (hlegible first) htemp).readWith
        (by decide)
    · exact (readsAs_dropTemp htemp).readWith (by decide)

/-- A delete of records that ask for rows, by a join only if they have the same fields, is not
refused. -/
lemma exists_deleteRecords (he : Accepted e) {mode : MatchMode} {first : Record}
    {others : List Record} (hasks : ∀ r ∈ first :: others, r.keys.Nodup ∧ Asks e r)
    (hsame : mode = .tempTable → ∀ r ∈ first :: others, recordFields e r = recordFields e first)
    (mark? : Option Mark) (size : Nat) (temp : String) :
    ∃ steps, deleteRecords e mark? mode size temp first others = .ok steps := by
  cases mode with
  | common =>
    have hgroups := (SqlResult.mapM_eq_ok_map fun _ _ => predicateGroup_eq_ok).mpr
      ⟨fun r hr => asks_iff.mpr (hasks r hr).2, rfl⟩
    exact ⟨_, SqlResult.bind_eq_ok.mpr ⟨_, hgroups, rfl⟩⟩
  | tempTable =>
    have hfields := predicateFields_eq_ok.mpr
      ⟨asks_iff.mpr (hasks first List.mem_cons_self).2, rfl⟩
    have hexact : ∀ r ∈ first :: others, hasExactly (recordFields e first) r = true := by
      intro r hr
      rw [← hsame rfl r hr]
      exact hasExactly_recordFields (hasks r hr).2 (hasks r hr).1 he
    obtain ⟨staged, hstage⟩ := @stage_of_hasExactly temp _ _ hexact size
    exact ⟨_, SqlResult.bind_eq_ok.mpr ⟨_, hfields, SqlResult.bind_eq_ok.mpr ⟨_, hstage, rfl⟩⟩⟩

lemma exists_deletePlan (he : Accepted e) {target : Target} (htarget : isRaw target = false)
    {mode : MatchMode} {force : Bool} {config : Config} {suffixes : Suffixes}
    {records : List Record} (hsize : config.maxDeal ≠ 0)
    (hrecords : targetRecords e target = .ok records)
    (hasks : ∀ r ∈ records, r.keys.Nodup ∧ Asks e r)
    (hsame : mode = .tempTable →
      ∀ r ∈ records, ∀ r' ∈ records, recordFields e r = recordFields e r') :
    ∃ steps, deletePlan e target mode force config suffixes = .ok steps := by
  have hvalid : config.validate = .ok () := validate_eq_ok.mpr hsize
  cases records with
  | nil =>
    refine ⟨[], SqlResult.bind_eq_ok.mpr ⟨(), hvalid, ?_⟩⟩
    cases target
    case raw => cases htarget
    all_goals exact SqlResult.bind_eq_ok.mpr ⟨[], hrecords, rfl⟩
  | cons first others =>
    obtain ⟨steps, hsteps⟩ := exists_deleteRecords he hasks
      (fun hmode r hr => hsame hmode r hr first List.mem_cons_self) (markOf? e force)
      config.maxDeal (tempName e (suffixes 0))
    refine ⟨steps, SqlResult.bind_eq_ok.mpr ⟨(), hvalid, ?_⟩⟩
    cases target
    case raw => cases htarget
    all_goals exact SqlResult.bind_eq_ok.mpr ⟨first :: others, hrecords, hsteps⟩

/-! ### Deletes -/

/-- A delete that is not refused touches the table of its entity once, unless nothing is addressed:
it removes or marks the rows that each of its records asks for. It is refused, before there is a
statement, if a record asks for nothing, and only for reasons that are known beforehand. -/
theorem delete_addresses_asked {decl : EntityDecl} (hdecl : decl.build = .ok e) {target : Target}
    (htarget : isRaw target = false) (mode : MatchMode) (force : Bool) (config : Config)
    {suffixes : Suffixes} (hsuffix : IsPlainSuffix (suffixes 0)) :
    (∀ statements, (delete e target mode force config suffixes).value = .ok statements →
      ∃ records, targetRecords e target = .ok records ∧ (∀ r ∈ records, Asks e r) ∧
        ((records = [] ∧ statements = []) ∨
          (records ≠ [] ∧ ∃ commands action scope,
            List.Forall₂ (fun s c => readStatement config.dialect s = some c) statements
              commands ∧
            Deletes config.dialect e records mode force config.maxDeal commands action scope))) ∧
    (∀ records, targetRecords e target = .ok records →
      (∃ r ∈ records, r.keys = [] ∨ ∃ k ∈ r.keys, e.field? k = none) →
      ∃ err, delete e target mode force config suffixes = ⟨.error err, []⟩) ∧
    (∀ records, config.maxDeal ≠ 0 → targetRecords e target = .ok records →
      (∀ r ∈ records, r.keys.Nodup ∧ Asks e r) →
      (mode = .tempTable → ∀ r ∈ records, ∀ r' ∈ records, recordFields e r = recordFields e r') →
      ∃ statements, (delete e target mode force config suffixes).value = .ok statements) := by
  have he := accepted_of_build hdecl
  have hplanned {steps : List Step} (hplan : deletePlan e target mode force config suffixes
      = .ok steps) : ∃ records, targetRecords e target = .ok records ∧ (∀ r ∈ records, Asks e r) ∧
        ((records = [] ∧ steps = []) ∨ (records ≠ [] ∧ ∃ commands action scope,
          List.Forall₂ (Reads config.dialect) steps commands ∧
          Deletes config.dialect e records mode force config.maxDeal commands action scope)) := by
    obtain ⟨records, hrecords, ⟨rfl, rfl⟩ | ⟨first, others, rfl, h⟩⟩ := deletePlan_ok htarget hplan
    · exact ⟨[], hrecords, by simp, .inl ⟨rfl, rfl⟩⟩
    · obtain ⟨hasks, hread⟩ := reads_deleteRecords he force hsuffix h
      exact ⟨_, hrecords, hasks, .inr ⟨List.cons_ne_nil _ _, hread⟩⟩
  refine ⟨fun statements h => ?_, fun records hrecords ⟨r, hr, hnone⟩ => ?_,
    fun records hsize hrecords hasks hsame => ?_⟩
  · obtain ⟨steps, hplan, rfl⟩ := delete_ok h
    obtain ⟨records, hrecords, hasks, ⟨hnone, rfl⟩ | ⟨hne, commands, action, scope, hread, hdel⟩⟩ :=
      hplanned hplan
    · exact ⟨records, hrecords, hasks, .inl ⟨hnone, rfl⟩⟩
    · refine ⟨records, hrecords, hasks, .inr ⟨hne, commands, action, scope, ?_, hdel⟩⟩
      rwa [List.forall₂_map_left_iff]
  · cases hplan : deletePlan e target mode force config suffixes with
    | error err => exact ⟨err, by rw [delete, hplan]⟩
    | ok steps =>
      obtain ⟨records', hrecords', hasks, -⟩ := hplanned hplan
      obtain rfl := Except.ok.inj (hrecords.symm.trans hrecords')
      exact absurd (hasks r hr) (not_asks hnone)
  · obtain ⟨steps, hplan⟩ := exists_deletePlan he htarget hsize hrecords hasks hsame
    exact ⟨_, by rw [delete, hplan]⟩

/-- Notes, of which those that are gone are kept. -/
def noteDecl : EntityDecl where
  table := "note"
  name? := none
  fields := [
    (FieldDecl.ofName "id" .bigInt).asPrimaryKey,
    FieldDecl.ofName "body" .text,
    { FieldDecl.ofName "gone" .tinyInt with deleted? := some (.int 1) }]

/-- The entity of notes. -/
def note : Entity where
  name := "note"
  tableText := "note"
  table := ⟨[.plain "note"]⟩
  fields := noteDecl.fields.map fun f => { f with part := .plain f.column }

lemma build_note : noteDecl.build = .ok note := by
  have htable := @Ident.parse_plain "note" (by decide)
  have hid := @Ident.parse_plain "id" (by decide)
  have hbody := @Ident.parse_plain "body" (by decide)
  have hgone := @Ident.parse_plain "gone" (by decide)
  simp only [EntityDecl.build, noteDecl, acceptFields, FieldDecl.accept, FieldDecl.asPrimaryKey,
    FieldDecl.ofName, htable, hid, hbody, hgone]
  rfl

/-- The records that address two notes. -/
def twoNotes : List Record := [[("id", .int 1)], [("id", .int 2)]]

lemma asks_twoNotes : ∀ r ∈ twoNotes, r.keys.Nodup ∧ Asks note r := by
  intro r hr
  rcases List.mem_pair.mp hr with rfl | rfl <;>
    exact ⟨by decide, List.cons_ne_nil _ _, by decide⟩

/-- Two notes are marked by a join, and a record without names is refused. -/
theorem delete_addresses_asked_notes :
    noteDecl.build = .ok note ∧ isRaw (.ids [.int 1, .int 2]) = false ∧
      isRaw (.records [[]]) = false ∧ IsPlainSuffix "0" ∧
      (∃ statements commands scope,
        (delete note (.ids [.int 1, .int 2]) .tempTable false .standard fun _ => "0").value
          = .ok statements ∧
        List.Forall₂ (fun s c => readStatement .mysql s = some c) statements commands ∧
        Deletes .mysql note twoNotes .tempTable false 500 commands
          (.set [⟨.plain "gone", .value (.int 1)⟩]) scope) ∧
      ∃ err, delete note (.records [[]]) .common false .standard (fun _ => "0")
        = ⟨.error err, []⟩ := by
  have hsuffix : IsPlainSuffix "0" := by decide
  obtain ⟨hread, -, hdeletes⟩ := @delete_addresses_asked note noteDecl build_note
    (.ids [.int 1, .int 2]) rfl .tempTable false .standard (fun _ => "0") hsuffix
  obtain ⟨-, hrefused, -⟩ := @delete_addresses_asked note noteDecl build_note
    (.records [[]]) rfl .common false .standard (fun _ => "0") hsuffix
  refine ⟨build_note, rfl, rfl, hsuffix, ?_, hrefused [[]] rfl ⟨[], List.mem_singleton.mpr rfl,
    .inl rfl⟩⟩
  have hsame : ∀ r ∈ twoNotes, ∀ r' ∈ twoNotes, recordFields note r = recordFields note r' := by
    intro r hr r' hr'
    rcases List.mem_pair.mp hr with rfl | rfl <;> rcases List.mem_pair.mp hr' with rfl | rfl <;> rfl
  obtain ⟨statements, hstatements⟩ := hdeletes twoNotes (by decide) rfl asks_twoNotes fun _ => hsame
  obtain ⟨records, hrecords, -, ⟨hnone, -⟩ | ⟨-, commands, action, scope, hcommands, hdel⟩⟩ :=
    hread statements hstatements
  · subst hnone
    cases hrecords
  · obtain rfl : twoNotes = records := Except.ok.inj hrecords
    refine ⟨statements, commands, scope, hstatements, hcommands, ?_⟩
    cases hdel.acts with
    | removes h => rcases h with h | h <;> cases h
    | marks hforce hf hmark =>
      cases hf
      cases hmark
      exact hdel

end Batch

end QueryLoom

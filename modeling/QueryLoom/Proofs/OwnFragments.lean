import QueryLoom.Proofs.MissingIncludes
import QueryLoom.Proofs.Slots
import QueryLoom.Proofs.TrimmedText

/-!
# Fragments of a mapper

A block of a mapper includes other blocks of it by their ids alone. The blocks are filed under the
namespace of the mapper, and an include looks under the part of that namespace in front of its first
dot. So a mapper finds its own fragments exactly if its namespace has no dot.
-/

namespace QueryLoom

/-! ### Namespaces of ids -/

lemma toList_namespaceOf (id : String) :
    (namespaceOf id).toList = id.toList.takeWhile (· != '.') := by
  rw [namespaceOf, String.toList_ofList]

/-- What an id is filed under adds nothing in front of the first dot. -/
lemma namespaceOf_qualified (ns id : String) : namespaceOf (ns ++ "." ++ id) = namespaceOf ns := by
  rw [namespaceOf, namespaceOf, String.toList_append, String.toList_append]
  congr 1
  induction ns.toList with
  | nil => rfl
  | cons c cs ih =>
    by_cases hc : c = '.'
    · simp [hc]
    · simpa [hc] using ih

lemma namespaceOf_eq_self_iff {ns : String} : namespaceOf ns = ns ↔ '.' ∉ ns.toList := by
  rw [← String.toList_inj, toList_namespaceOf, List.takeWhile_eq_self_iff]
  constructor
  · intro h hdot
    simpa using h '.' hdot
  · intro h c hc
    simp only [bne_iff_ne]
    rintro rfl
    exact h hc

/-! ### Ids of blocks -/

namespace Markup

/-- The id of a block that is read has no blanks at its ends, and something between them. -/
lemma Mapper.id_of_readBlock {n : Node} {block : Block} (h : readBlock n = .ok (some block)) :
    Text.trimmed block.id = block.id ∧ Text.isBlankText block.id = false := by
  revert h
  fun_cases readBlock n with
  | case5 name attributes children hmap hkind id hid hblank =>
    rintro ⟨⟩
    exact ⟨Text.trimmed_trimmed id, by simpa [Text.isBlankText_trimmed] using hblank⟩
  | _ => exact nofun

lemma Mapper.id_of_mem_blocks {text : String} {mapper : Mapper} (h : parse text = .ok mapper)
    {block : Block} (hblock : block ∈ mapper.blocks) :
    Text.trimmed block.id = block.id ∧ Text.isBlankText block.id = false := by
  obtain ⟨nodes, -, h⟩ := SqlResult.bind_eq_ok.mp h
  obtain ⟨⟨attributes, children⟩, -, h⟩ := SqlResult.bind_eq_ok.mp h
  obtain ⟨blocks, hblocks, h⟩ := SqlResult.bind_eq_ok.mp h
  cases SqlResult.pure_eq_ok.mp h
  obtain ⟨found, hfound, hid⟩ := List.mem_filterMap.mp hblock
  cases hid
  obtain ⟨child, -, hchild⟩ := exists_of_mem_forall₂ (SqlResult.mapM_eq_ok.mp hblocks) hfound
  exact id_of_readBlock hchild

end Markup

namespace Registry

/-! ### Fragments of a mapper -/

/-- Where a request for the candidates evaluates an include of a name, it finds these nodes, or
none. -/
def Finds (r : Registry) (candidates : List String) (name : String)
    (found : Option (List Markup.Node)) : Prop :=
  ∀ d attributes children s, KeyMap.get? "refid" attributes = some name →
    (Markup.Render.findInclusion (r.settingFor candidates d) attributes children).run s =
      (Markup.Render.inclusionOf (candidates.map namespaceOf) name children found, s)

/-- An include in a block looks under the part of the block's namespace in front of its first
dot. -/
lemma finds_qualified (r : Registry) (ns id name : String) (hdot : '.' ∉ name.toList)
    (hblank : Text.isBlankText name = false) (htrimmed : Text.trimmed name = name)
    (hname : Markup.Unmarked name) :
    r.Finds [ns ++ "." ++ id] name (r.fragment? (namespaceOf ns ++ "." ++ name)) := by
  intro d attributes children s hrefid
  rw [Markup.Render.run_findInclusion_of_unmarked _ hrefid hblank htrimmed hname,
    Markup.Render.fullNames_of_not_mem hdot]
  simp [settingFor, namespaceOf_qualified]

/-- Under an id there is afterwards the tree of a block that is filed under it, or what was there
before if there is no such block. -/
lemma source?_makeAll_blocks (r : Registry) (ns id : String) (blocks : List Markup.Block) :
    let next := (r.makeAll (blocks.map fun block =>
      .source (ns ++ "." ++ block.id) (.tree block.body))).1
    (∃ block ∈ blocks, ns ++ "." ++ block.id = id ∧ next.source? id = some (.tree block.body)) ∨
      (∀ block ∈ blocks, ns ++ "." ++ block.id ≠ id) ∧ next.source? id = r.source? id := by
  induction blocks generalizing r with
  | nil => exact .inr ⟨nofun, rfl⟩
  | cons first blocks ih =>
    obtain ⟨next, hfirst⟩ : ∃ next,
        (Change.source (ns ++ "." ++ first.id) (.tree first.body)).attempt r = .ok next :=
      ⟨_, Change.attempt_source ..⟩
    have hsource : next.source? id = if id = ns ++ "." ++ first.id then some (.tree first.body)
        else r.source? id := by
      rw [Change.attempt_source] at hfirst
      cases hfirst
      exact KeyMap.get?_insert _ id _ r.sources
    rw [List.map_cons, makeAll, hfirst]
    rcases ih next with ⟨block, hblock, hid, hnext⟩ | ⟨hne, hnext⟩
    · exact .inl ⟨block, List.mem_cons_of_mem first hblock, hid, hnext⟩
    · by_cases hid : id = ns ++ "." ++ first.id
      · refine .inl ⟨first, List.mem_cons_self, hid.symm, ?_⟩
        rw [hnext, hsource, if_pos hid]
      · refine .inr ⟨List.forall_mem_cons.mpr ⟨Ne.symm hid, hne⟩, ?_⟩
        rw [hnext, hsource, if_neg hid]

lemma run_loadMapper (r : Registry) {ns xml : String} {mapper : Markup.Mapper} (hns : ns ≠ "")
    (hparse : Markup.Mapper.parse xml = .ok mapper) : (Call.loadMapper ns xml).run r =
      (r.makeAll (mapper.blocks.map fun block =>
        .source (ns ++ "." ++ block.id) (.tree block.body))).1 := by
  have hempty : ns.isEmpty = false := by simpa using hns
  rw [Call.run_eq, Call.changes, hparse]
  simp only [Call.mapperChanges, hempty, Bool.false_eq_true, if_false]

/-- A mapper that is loaded under a namespace finds its own fragments. -/
def FindsOwn (ns : String) : Prop :=
  ∀ (r : Registry) (xml : String) (mapper : Markup.Mapper) (later : List Call),
    Markup.Mapper.parse xml = .ok mapper → (∀ block ∈ mapper.blocks, '.' ∉ block.id.toList) →
    let loaded := (Call.loadMapper ns xml).run r
    let next := loaded.runAll later
    ∀ b ∈ mapper.blocks, ∀ x ∈ mapper.blocks, Markup.Unmarked x.id →
      next.source? (ns ++ "." ++ x.id) = loaded.source? (ns ++ "." ++ x.id) →
      (∃ y ∈ mapper.blocks, y.id = x.id ∧ next.fragment? (ns ++ "." ++ x.id) = some y.body ∧
        next.Finds [ns ++ "." ++ b.id] x.id (some y.body)) ∧
      ∀ request d namespaces, (next.load [ns ++ "." ++ b.id] request d).run.value ≠
        .error (.includeNotFound x.id namespaces)

lemma findsOwn_of_not_mem {ns : String} (hns : ns ≠ "") (hdot : '.' ∉ ns.toList) :
    FindsOwn ns := by
  intro r xml mapper later hparse hdots loaded next b hb x hx hunmarked hkept
  have hloaded : loaded = _ := run_loadMapper r hns hparse
  obtain ⟨y, hy, hid, hsource⟩ : ∃ y ∈ mapper.blocks, ns ++ "." ++ y.id = ns ++ "." ++ x.id ∧
      loaded.source? (ns ++ "." ++ x.id) = some (.tree y.body) := by
    rw [hloaded]
    rcases source?_makeAll_blocks r ns (ns ++ "." ++ x.id) mapper.blocks with h | ⟨hne, -⟩
    · exact h
    · exact absurd rfl (hne x hx)
  have hfragment : next.fragment? (ns ++ "." ++ x.id) = some y.body := by
    rw [fragment?, hkept, hsource]
  obtain ⟨htrimmed, hblank⟩ := Markup.Mapper.id_of_mem_blocks hparse hx
  refine ⟨⟨y, hy, by simpa using hid, hfragment, ?_⟩, fun request d namespaces h => ?_⟩
  · have hfinds := next.finds_qualified ns b.id x.id (hdots x hx) hblank htrimmed hunmarked
    rwa [namespaceOf_eq_self_iff.mpr hdot, hfragment] at hfinds
  · obtain ⟨-, hmissing⟩ := load_reportsMissing h
    rw [Markup.Render.fullNames_of_not_mem (hdots x hx)] at hmissing
    simp [namespaceOf_qualified, namespaceOf_eq_self_iff.mpr hdot, hfragment] at hmissing

/-! ### Namespaces with dots -/

/-- A mapper with a block that includes another one. -/
def userMapper : String :=
  "<mapper><sql id=\"cols\">id</sql>" ++
    "<select id=\"list\"><include refid=\"cols\"/></select></mapper>"

/-- The blocks of the mapper. -/
def userBlocks : List Markup.Block :=
  [⟨"sql", "cols", [.text "id"]⟩, ⟨"select", "list", [.element "include" [("refid", "cols")] []]⟩]

lemma parse_userMapper : Markup.Mapper.parse userMapper = .ok ⟨none, userBlocks⟩ := by cbv

lemma unmarked_cols : Markup.Unmarked "cols" := by
  have hall : Markup.Segment.all "cols".toList =
      [.plain 'c', .plain 'o', .plain 'l', .plain 's'] := by cbv
  rw [Markup.Unmarked, hall]
  simp

/-- The registry in which only this mapper was loaded. -/
def userRegistry (ns : String) : Registry := (Call.loadMapper ns userMapper).run (empty [])

lemma source?_userRegistry_list {ns : String} (hns : ns ≠ "") :
    (userRegistry ns).source? (ns ++ "." ++ "list") =
      some (.tree [.element "include" [("refid", "cols")] []]) := by
  rw [userRegistry, run_loadMapper _ hns parse_userMapper]
  rcases source?_makeAll_blocks (empty []) ns (ns ++ "." ++ "list") userBlocks with
    ⟨block, hblock, hid, hsource⟩ | ⟨hne, -⟩
  · have hlist : block.id = "list" := by simpa using hid
    simp only [userBlocks, List.mem_cons, List.not_mem_nil, or_false] at hblock
    obtain rfl | rfl := hblock
    · simp at hlist
    · exact hsource
  · exact absurd rfl (hne _ (List.mem_cons_of_mem _ List.mem_cons_self))

/-- In front of the first dot there is no namespace with the fragment. -/
lemma fragment?_userRegistry_cols {ns : String} (hns : ns ≠ "") (hdot : '.' ∈ ns.toList) :
    (userRegistry ns).fragment? (namespaceOf ns ++ "." ++ "cols") = none := by
  have hsource : (userRegistry ns).source? (namespaceOf ns ++ "." ++ "cols") = none := by
    rw [userRegistry, run_loadMapper _ hns parse_userMapper]
    rcases source?_makeAll_blocks (empty []) ns (namespaceOf ns ++ "." ++ "cols") userBlocks with
      ⟨block, hblock, hid, -⟩ | ⟨-, hsource⟩
    · simp only [userBlocks, List.mem_cons, List.not_mem_nil, or_false] at hblock
      obtain rfl | rfl := hblock
      · have hself : namespaceOf ns = ns := by simpa using hid.symm
        exact absurd hdot (namespaceOf_eq_self_iff.mp hself)
      · have hlast := congrArg (·.toList.getLast?) hid
        simp at hlast
    · exact hsource
  rw [fragment?, hsource]

/-- Under a namespace with a dot the mapper does not find its own fragment. -/
lemma load_userRegistry {ns : String} (hdot : '.' ∈ ns.toList) (request : Request) (d : Dialect) :
    ((userRegistry ns).load [ns ++ "." ++ "list"] request d).run.value =
      .error (.includeNotFound "cols" [namespaceOf ns]) := by
  have hns : ns ≠ "" := by
    rintro rfl
    simp at hdot
  have hfinds := (userRegistry ns).finds_qualified ns "list" "cols" (by decide) (by decide)
    (by decide) unmarked_cols
  rw [fragment?_userRegistry_cols hns hdot] at hfinds
  have hnone : Markup.Render.inclusionOf ([ns ++ "." ++ "list"].map namespaceOf) "cols" [] none =
      .error (.includeNotFound "cols" [namespaceOf ns]) := by
    rw [List.map_singleton, namespaceOf_qualified]
    rfl
  have hfind := hfinds d [("refid", "cols")] []
    ⟨Scope.ofBag request.view, .ofRequest request d (userRegistry ns).enums, []⟩ rfl
  rw [hnone] at hfind
  rw [value_load, resolve_singleton (source?_userRegistry_list hns)]
  dsimp only
  rw [value_loadTree, rendering, Markup.Render.run_document_inclusion hfind]
  rfl

/-- What it says of this mapper that a mapper finds its own fragments. -/
lemma FindsOwn.user {ns : String} (h : FindsOwn ns) :
    (userRegistry ns).Finds [ns ++ "." ++ "list"] "cols" (some [.text "id"]) ∧
      ∀ request d namespaces, ((userRegistry ns).load [ns ++ "." ++ "list"] request d).run.value ≠
        .error (.includeNotFound "cols" namespaces) := by
  have hdots : ∀ block ∈ userBlocks, '.' ∉ block.id.toList := by simp [userBlocks]
  have hcols : ⟨"sql", "cols", [.text "id"]⟩ ∈ userBlocks := List.mem_cons_self
  have hlist : ⟨"select", "list", [.element "include" [("refid", "cols")] []]⟩ ∈ userBlocks :=
    List.mem_cons_of_mem _ List.mem_cons_self
  have hnone : ∀ r : Registry, r.runAll [] = r := fun r => rfl
  obtain ⟨⟨y, hy, hid, -, hfinds⟩, hload⟩ := h (empty []) userMapper ⟨none, userBlocks⟩ []
    parse_userMapper hdots _ hlist _ hcols unmarked_cols (by rw [hnone])
  rw [hnone] at hfinds
  simp only [hnone] at hload
  refine ⟨?_, hload⟩
  simp only [userBlocks, List.mem_cons, List.not_mem_nil, or_false] at hy
  obtain rfl | rfl := hy
  · exact hfinds
  · simp at hid

lemma not_findsOwn {ns : String} (hdot : '.' ∈ ns.toList) : ¬ FindsOwn ns := by
  intro hown
  obtain ⟨-, hload⟩ := hown.user
  exact hload .standard .mysql [namespaceOf ns] (load_userRegistry hdot .standard .mysql)

/-- A mapper finds its own fragments exactly if its namespace has no dot. Under any namespace its
includes are looked up in the part of it in front of the first dot. -/
theorem findsOwn_iff (ns : String) (hns : ns ≠ "") :
    (FindsOwn ns ↔ '.' ∉ ns.toList) ∧
    ∀ (r : Registry) (id name : String), '.' ∉ name.toList → Text.isBlankText name = false →
      Text.trimmed name = name → Markup.Unmarked name →
      r.Finds [ns ++ "." ++ id] name (r.fragment? (namespaceOf ns ++ "." ++ name)) := by
  constructor
  · exact ⟨fun hown hdot => not_findsOwn hdot hown, findsOwn_of_not_mem hns⟩
  · exact fun r id name => r.finds_qualified ns id name

/-- Under a namespace without dots the block includes the other one. -/
theorem findsOwn_user :
    FindsOwn "user" ∧ (userRegistry "user").Finds ["user.list"] "cols" (some [.text "id"]) := by
  obtain ⟨hiff, -⟩ := findsOwn_iff "user" (by decide)
  have hown : FindsOwn "user" := hiff.mpr (by decide)
  refine ⟨hown, ?_⟩
  exact hown.user.1

/-- Under a namespace with dots the same block is not rendered. -/
theorem load_qualifiedUser :
    ¬ FindsOwn "com.acme.User" ∧
      ((userRegistry "com.acme.User").load ["com.acme.User.list"] .standard .mysql).run.value =
        .error (.includeNotFound "cols" ["com"]) := by
  have hdot : '.' ∈ "com.acme.User".toList := by decide
  have hspace : namespaceOf "com.acme.User" = "com" := by decide
  refine ⟨not_findsOwn hdot, ?_⟩
  rw [← hspace]
  exact load_userRegistry hdot .standard .mysql

end Registry

end QueryLoom

import QueryLoom.Proofs.RenderSteps
import QueryLoom.Registry.Compile

/-!
# Includes that are not found

A name without markers is looked up as it is written. A request reports an include as not found only
if no full name of it has a fragment.
-/

namespace QueryLoom

namespace Markup

/-! ### Texts without markers -/

/-- A text has no markers. -/
def Unmarked (text : String) : Prop := ∀ s ∈ Segment.all text.toList, ∃ c, s = .plain c

lemma join_write {segments : List Segment} (h : ∀ s ∈ segments, ∃ c, s = .plain c)
    (scope : Scope) (d : Dialect) : String.join (segments.map (Segment.write scope d)) =
      String.ofList (segments.flatMap Segment.source) := by
  rw [← String.toList_inj, String.toList_join, String.toList_ofList, List.flatMap_map]
  refine List.flatMap_congr fun s hs => ?_
  obtain ⟨c, rfl⟩ := h s hs
  exact String.toList_singleton c

/-- A text without markers stays as it is. -/
lemma substitute_of_unmarked {text : String} (h : Unmarked text) (scope : Scope) (d : Dialect) :
    substitute scope d text = .ok text := by
  have hresolved : (Segment.all text.toList).filterMap (Segment.unresolved? scope) = [] := by
    refine List.filterMap_eq_nil_iff.mpr fun s hs => ?_
    obtain ⟨c, rfl⟩ := h s hs
    rfl
  rw [substitute, hresolved, join_write h, Segment.flatMap_source_all, String.ofList_toList]
  rfl

namespace Render

variable {σ : Type}

/-! ### Lookup -/

/-- An unmarked name is looked up as it is. -/
lemma run_findInclusion_of_unmarked (setting : Setting σ) {attributes : Attributes} {name : String}
    (hrefid : KeyMap.get? "refid" attributes = some name) (hblank : Text.isBlankText name = false)
    (htrimmed : Text.trimmed name = name) (hname : Unmarked name) (children : List Node)
    (s : Session σ) : (findInclusion setting attributes children).run s =
      (inclusionOf setting.namespaces name children
        ((fullNames setting.namespaces name).findSome? setting.fragment?), s) := by
  have hrequired : attributes.required "include" "refid" = .ok name := by
    simp [Attributes.required, hrefid, hblank]
  have hreference := substitute_of_unmarked hname s.scope setting.dialect
  rw [run_findInclusion setting children s hrequired hreference, htrimmed]

lemma fullNames_of_not_mem {namespaces : List String} {name : String} (h : '.' ∉ name.toList) :
    fullNames namespaces name = namespaces.map (· ++ "." ++ name) := by
  simp [fullNames, h]

/-- A document of one include fails if nothing is found. -/
lemma run_document_inclusion {setting : Setting σ} {attributes : Attributes} {children : List Node}
    {s : Session σ} {e : SqlError}
    (h : (findInclusion setting attributes children).run s = (.error e, s)) :
    (document setting [.element "include" attributes children]).run s = (.error e, s) := by
  have htag : Tag.ofName? "include" = some .inclusion := by decide +kernel
  rw [document, nodes, node, htag]
  dsimp only
  rw [run_bind, run_bind, h]

/-! ### Missing fragments -/

/-- The step reports an include as not found only if no full name of it has a fragment. -/
def ReportsMissing {α : Type} (setting : Setting σ) (step : Render σ α) : Prop :=
  ∀ s reference namespaces, (step.run s).1 = .error (.includeNotFound reference namespaces) →
    namespaces = setting.namespaces ∧
      (fullNames setting.namespaces reference).findSome? setting.fragment? = none

lemma reportsMissing_congruence (setting : Setting σ) :
    Congruence fun {α} (step : Render σ α) (_ : Render σ α) => ReportsMissing setting step where
  lift {_ r} hr s reference namespaces h := (hr _ h trivial).elim
  bind {_ _ step _ next _} hstep hnext s reference namespaces h := by
    rcases run_bind_cases step next s with ⟨e, s', hrun, hbind⟩ | ⟨a, s', hrun, hbind⟩
    · rw [hbind] at h
      apply hstep s
      rw [hrun]
      exact congrArg Except.error (Except.error.inj h)
    · rw [hbind] at h
      exact hnext a s' reference namespaces h
  scope s reference namespaces h := nomatch h
  record e s reference namespaces h := nomatch h
  setValue key value s reference namespaces h := nomatch h
  withFrame frame hstep s reference namespaces h := by
    rw [run_withFrame] at h
    exact hstep _ reference namespaces h

lemma reportsMissing_expand {setting : Setting σ}
    (h : ∀ text view x, Ordinary (setting.expand text view x)) (text : String) :
    ReportsMissing setting (expand setting text) := by
  intro s reference namespaces herror
  rw [run_expand] at herror
  split at herror
  · cases hx : setting.expand text s.scope.flatten s.expansion with
    | error e =>
      rw [hx] at herror
      obtain rfl : e = .includeNotFound reference namespaces := Except.error.inj herror
      exact (h text s.scope.flatten s.expansion _ hx trivial).elim
    | ok found => simp [hx] at herror
  · cases herror

lemma corresponds_reportsMissing {setting : Setting σ}
    (h : ∀ text view x, Ordinary (setting.expand text view x)) :
    Corresponds (fun {α} (step : Render σ α) (_ : Render σ α) => ReportsMissing setting step)
      setting setting where
  namespaces := rfl
  fragments := rfl
  dialect := rfl
  expand := reportsMissing_expand h
  missing reference hfind s reference' namespaces herror := by
    cases herror
    exact ⟨rfl, hfind⟩

/-- Rendering reports an include as not found only if no full name of it has a fragment. -/
lemma reportsMissing_document {setting : Setting σ}
    (h : ∀ text view x, Ordinary (setting.expand text view x)) (ns : List Node) :
    ReportsMissing setting (document setting ns) := by
  refine document_related (reportsMissing_congruence setting) (corresponds_reportsMissing h) ?_ ns
  intro found s reference namespaces herror
  cases herror

end Render

end Markup

/-! ### Loading -/

namespace Template.Store

lemma ordinary_renderText (s : Store) (text : String) (view : Json) (x : Expansion) :
    Ordinary (s.renderText text view x) := by
  unfold renderText
  split
  · exact .ok _
  · split
    · exact .ok _
    · exact .parse [] _

lemma ordinary_render (s : Store) (name : String) (view : Json) (x : Expansion) :
    Ordinary (s.render name view x) := by
  unfold render
  split
  · exact .parse _ _
  · split
    · exact .ok _
    · exact .parse _ _

lemma ordinary_expand (s : Store) (enums : Clause.EnumTable) (name : String) (r : Request)
    (d : Dialect) : Ordinary (s.expand enums name r d) :=
  (s.ordinary_render name r.view _).map _

lemma ordinary_expandText (s : Store) (enums : Clause.EnumTable) (text : String)
    (r : Request) (d : Dialect) : Ordinary (s.expandText enums text r d) :=
  (s.ordinary_renderText text r.view _).map _

end Template.Store

lemma Ordinary.within {α : Type} {result : SqlResult α} (h : Ordinary result)
    (context : String) : Ordinary (result.mapError (SqlError.within context)) := by
  cases result with
  | ok a => exact .ok a
  | error e =>
    have he := h e rfl
    cases e with
    | includeNotFound reference namespaces => exact (he trivial).elim
    | malformedTag tag fault => exact .error he
    | _ => exact .error id

namespace Registry

variable {r : Registry}

/-- The setting in which a tree is rendered for a request. -/
def settingFor (r : Registry) (candidates : List String) (d : Dialect) : Markup.Setting Expansion :=
  ⟨candidates.map namespaceOf, r.fragment?, d, r.store.renderText⟩

lemma ordinary_resolve (r : Registry) (candidates : List String) :
    Ordinary (r.resolve candidates) := by
  unfold resolve
  split
  · exact .ok _
  · exact .error id

/-- What a tree is rendered to for a request, with the session afterwards. -/
def rendering (r : Registry) (candidates : List String) (request : Request) (d : Dialect)
    (nodes : List Markup.Node) : SqlResult String × Markup.Session Expansion :=
  (Markup.Render.document (r.settingFor candidates d) nodes).run
    ⟨Scope.ofBag request.view, .ofRequest request d r.enums, []⟩

lemma value_loadTree (r : Registry) (candidates : List String) (request : Request) (d : Dialect)
    (nodes : List Markup.Node) : (r.loadTree candidates request d nodes).run.value =
      (r.rendering candidates request d nodes).1.map fun text =>
        Template.appendOrder text (r.rendering candidates request d nodes).2.expansion := by
  have hrender : Markup.render (r.settingFor candidates d) nodes request.view
      (.ofRequest request d r.enums) =
        ⟨(r.rendering candidates request d nodes).1.map fun text =>
          (text, (r.rendering candidates request d nodes).2.expansion),
          (r.rendering candidates request d nodes).2.events⟩ := rfl
  rw [loadTree]
  dsimp only
  rw [← settingFor, hrender]
  cases (r.rendering candidates request d nodes).1 <;> rfl

lemma value_load (r : Registry) (candidates : List String) (request : Request) (d : Dialect) :
    (r.load candidates request d).run.value =
      match r.resolve candidates with
      | .error e => .error e
      | .ok (id, .text _) => r.store.expand r.enums id request d
      | .ok (id, .generator make) =>
        (r.store.expandText r.enums (make request) request d).mapError (SqlError.within id)
      | .ok (_, .tree nodes) => (r.loadTree candidates request d nodes).run.value := by
  rw [load]
  cases r.resolve candidates with
  | error e => rfl
  | ok found =>
    obtain ⟨id, source⟩ := found
    cases source <;> rfl

/-- A request reports an include as not found only if no full name of it has a fragment. -/
lemma load_reportsMissing {candidates : List String} {request : Request} {d : Dialect}
    {reference : String} {namespaces : List String}
    (h : (r.load candidates request d).run.value =
      .error (.includeNotFound reference namespaces)) :
    namespaces = candidates.map namespaceOf ∧
      (Markup.Render.fullNames (candidates.map namespaceOf) reference).findSome? r.fragment? =
        none := by
  rw [value_load] at h
  cases hresolve : r.resolve candidates with
  | error e =>
    rw [hresolve] at h
    obtain rfl : e = .includeNotFound reference namespaces := Except.error.inj h
    exact (r.ordinary_resolve candidates _ hresolve trivial).elim
  | ok found =>
    obtain ⟨id, source⟩ := found
    rw [hresolve] at h
    cases source with
    | text body =>
      exact (r.store.ordinary_expand r.enums id request d _ h trivial).elim
    | generator make =>
      have hexpand := r.store.ordinary_expandText r.enums (make request) request d
      exact (hexpand.within id _ h trivial).elim
    | tree nodes =>
      have hmissing : Markup.Render.ReportsMissing (r.settingFor candidates d)
          (Markup.Render.document (r.settingFor candidates d) nodes) :=
        Markup.Render.reportsMissing_document r.store.ordinary_renderText nodes
      have hrendering : (r.rendering candidates request d nodes).1 =
          .error (.includeNotFound reference namespaces) := by
        dsimp only at h
        rw [value_loadTree] at h
        cases hresult : (r.rendering candidates request d nodes).1 with
        | ok text => simp [hresult, Except.map] at h
        | error e => simpa [hresult, Except.map] using h
      exact hmissing _ reference namespaces hrendering

end Registry

end QueryLoom

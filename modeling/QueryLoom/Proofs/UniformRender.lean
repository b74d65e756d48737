import QueryLoom.Proofs.RenderSteps
import QueryLoom.Proofs.Skeleton
import QueryLoom.Proofs.UnreadKey

/-!
# Rendering for many texts at once

Bags that differ in the text under one key are told apart by a document only where it writes that
text as a literal. A step of rendering is uniform if for all these bags it fails in the same way, or
gives one skeleton filled with the literal of each text, and leaves the same session.
-/

namespace QueryLoom.Markup

/-- The session over a bag with one more entry. -/
def Session.atop {σ : Type} (entries : KeyMap Json) (key : String) (value : Json) (s : Session σ) :
    Session σ :=
  { s with scope := s.scope.atop entries key value }

/-- The skeleton with the literal of a text in its gaps. -/
def written (d : Dialect) (text : String) (sk : Skeleton) : String :=
  String.ofList (fill (d.quoteLiteral text).toList sk)

/-- The same thing for every text. -/
abbrev same {α : Type} (_ : String) (a : α) : α := a

/-- For all texts whose literals are of one class the step has one result, seen from the text, and
it leaves one session, but for the text. -/
def Uniform (entries : KeyMap Json) (key : String) (d : Dialect) (letters : Bool) {α β : Type}
    (view : String → β → α) (step : String → Render Unit α) : Prop :=
  ∀ s : Session Unit, ∃ (r : Except SqlError β) (s' : Session Unit), ∀ text,
    IsLiteral letters (d.quoteLiteral text).toList →
      (step text).run (s.atop entries key (.string text))
        = (r.map (view text), s'.atop entries key (.string text))

/-! ### Written skeletons -/

lemma toList_written (d : Dialect) (text : String) (sk : Skeleton) :
    (written d text sk).toList = fill (d.quoteLiteral text).toList sk := String.toList_ofList

lemma written_append (d : Dialect) (text : String) (sk sk' : Skeleton) :
    written d text (sk ++ sk') = written d text sk ++ written d text sk' := by
  rw [written, fill_append, String.ofList_append]
  rfl

/-- A text without gaps. -/
def bare (s : String) : Skeleton := s.toList.map some

@[simp] lemma written_bare (d : Dialect) (text s : String) : written d text (bare s) = s := by
  rw [written, bare, fill_map_some, String.ofList_toList]

lemma written_gap (d : Dialect) (text : String) : written d text [none] = d.quoteLiteral text := by
  rw [written, fill_none, fill_nil, List.append_nil, String.ofList_toList]

/-! ### Composition -/

namespace Uniform

variable {entries : KeyMap Json} {key : String} {d : Dialect} {letters : Bool} {α β γ δ : Type}
  {view : String → β → α} {view' : String → δ → γ}

lemma pure {a : String → α} {b : β}
    (h : ∀ text, IsLiteral letters (d.quoteLiteral text).toList → a text = view text b) :
    Uniform entries key d letters view fun text => Pure.pure (a text) := by
  intro s
  refine ⟨.ok b, s, fun text hl => ?_⟩
  change (Except.ok (a text), _) = (Except.ok (view text b), _)
  rw [h text hl]

lemma throw (e : SqlError) : Uniform entries key d letters view fun _ => MonadExcept.throw e :=
  fun s => ⟨.error e, s, fun _ _ => rfl⟩

lemma bind {step : String → Render Unit α} {next : String → α → Render Unit γ}
    (h : Uniform entries key d letters view step)
    (hnext : ∀ b, Uniform entries key d letters view' fun text => next text (view text b)) :
    Uniform entries key d letters view' fun text => step text >>= next text := by
  intro s
  obtain ⟨r, s', hstep⟩ := h s
  cases r with
  | error e =>
    refine ⟨.error e, s', fun text hl => ?_⟩
    rw [Render.run_bind, hstep text hl]
    rfl
  | ok b =>
    obtain ⟨r', s'', hrest⟩ := hnext b s'
    refine ⟨r', s'', fun text hl => ?_⟩
    rw [Render.run_bind, hstep text hl]
    exact hrest text hl

/-- A result that does not depend on the text, followed by a step. -/
lemma lift_bind {r : SqlResult β} {next : String → β → Render Unit γ}
    (hnext : ∀ b, r = .ok b → Uniform entries key d letters view' fun text => next text b) :
    Uniform entries key d letters view' fun text => (liftM r : Render Unit β) >>= next text := by
  cases r with
  | error e => exact fun s => ⟨.error e, s, fun _ _ => rfl⟩
  | ok b => exact hnext b rfl

/-- The scope, followed by a step. -/
lemma scope_bind {next : String → Scope → Render Unit γ}
    (hnext : ∀ sc : Scope, Uniform entries key d letters view' fun text =>
      next text (sc.atop entries key (.string text))) :
    Uniform entries key d letters view' fun text => Render.scope >>= next text :=
  fun s => hnext s.scope s

/-- Both steps of a choice that does not depend on the text. -/
lemma ite {step step' : String → Render Unit α} (c : Bool)
    (h : Uniform entries key d letters view step)
    (h' : Uniform entries key d letters view step') :
    Uniform entries key d letters view fun text => if c = true then step text else step' text := by
  cases c with
  | true => exact h
  | false => exact h'

/-- A result that is seen from the text. -/
lemma lift {f : String → SqlResult α} {r : Except SqlError β}
    (h : ∀ text, f text = r.map (view text)) :
    Uniform entries key d letters view fun text => (liftM (f text) : Render Unit α) := by
  intro s
  refine ⟨r, s, fun text _ => ?_⟩
  change (f text, _) = (r.map (view text), _)
  rw [h text]

lemma record (e : Event) : Uniform entries key d letters same fun _ => Render.record e :=
  fun s => ⟨.ok (), { s with events := s.events ++ [e] }, fun _ _ => rfl⟩

lemma setValue (name : String) (value : Json) :
    Uniform entries key d letters same fun _ => Render.setValue name value :=
  fun s => ⟨.ok (), { s with scope := s.scope.set name value }, fun _ _ => rfl⟩

lemma withFrame {step : String → Render Unit α} (h : Uniform entries key d letters view step)
    (frame : KeyMap Json) :
    Uniform entries key d letters view fun text => Render.withFrame frame (step text) := by
  intro s
  obtain ⟨r, s', hstep⟩ := h { s with scope := s.scope.push frame }
  refine ⟨r, { s' with scope := s'.scope.pop }, fun text hl => ?_⟩
  have hpop : ∀ sc : Scope, (sc.atop entries key (.string text)).pop
      = sc.pop.atop entries key (.string text) := by
    rintro ⟨base, top, _ | ⟨next, below⟩⟩ <;> rfl
  change (match (step text).run (Session.atop entries key (.string text)
      { s with scope := s.scope.push frame }) with
    | (r, s') => (r, { s' with scope := s'.scope.pop })) = _
  rw [hstep text hl]
  simp only [Session.atop, hpop]

end Uniform

/-! ### Markers -/

namespace Segment

/-- A marker writes the text under the key as a literal, or does not read it. -/
def Quotes (key : String) : Segment → Prop
  | .plain _ => True
  | .marker sigil inside =>
    AvoidsKey key (String.ofList (path inside)) ∨
      sigil = '#' ∧ Path.parse? (String.ofList (path inside)) = some [.key key]

/-- A marker does not read the key. -/
def Avoids (key : String) : Segment → Prop
  | .plain _ => True
  | .marker _ inside => AvoidsKey key (String.ofList (path inside))

lemma Avoids.quotes {key : String} {s : Segment} (h : s.Avoids key) : s.Quotes key := by
  cases s with
  | plain c => trivial
  | marker sigil inside => exact .inl h

variable (entries : KeyMap Json) {key : String} (d : Dialect) (sc : Scope)

/-- What a marker stands for: one value, or the text under the key as a literal. -/
lemma value?_atop {sigil : Char} {inside : List Char} (h : (marker sigil inside).Quotes key) :
    (∃ value?, ∀ text, Segment.value? (sc.atop entries key (.string text)) inside = value?) ∨
      sigil = '#' ∧ ∀ text,
        Segment.value? (sc.atop entries key (.string text)) inside = some (.string text) := by
  unfold Segment.value?
  by_cases hempty : (path inside).isEmpty = true
  · exact .inl ⟨none, fun text => if_pos hempty⟩
  simp only [hempty, Bool.false_eq_true, if_false]
  rcases h with havoids | ⟨hsigil, hparse⟩
  · exact .inl ⟨_, fun text => Scope.resolve?_atop havoids (.string text) sc⟩
  · rcases Scope.resolve?_over_key hparse sc with ⟨hidden, hhidden⟩ | hvalue
    · exact .inl ⟨some hidden, fun text => hhidden (.string text)⟩
    · exact .inr ⟨hsigil, fun text => hvalue (.string text)⟩

lemma write_atop {s : Segment} (h : s.Quotes key) :
    ∃ sk, ∀ text, s.write (sc.atop entries key (.string text)) d = written d text sk := by
  cases s with
  | plain c => exact ⟨bare (String.singleton c), fun text => (written_bare d text _).symm⟩
  | marker sigil inside =>
    rcases value?_atop entries sc h with ⟨value?, hvalue⟩ | ⟨rfl, hvalue⟩
    · cases value? with
      | none => exact ⟨[], fun text => by simp only [write, hvalue]; rfl⟩
      | some value =>
        refine ⟨bare (valueText d sigil value), fun text => ?_⟩
        simp only [write, hvalue, written_bare]
    · refine ⟨[none], fun text => ?_⟩
      simp only [write, hvalue, written_gap]
      rfl

lemma unresolved?_atop {s : Segment} (h : s.Quotes key) :
    ∃ u, ∀ text, s.unresolved? (sc.atop entries key (.string text)) = u := by
  cases s with
  | plain c => exact ⟨none, fun text => rfl⟩
  | marker sigil inside =>
    rcases value?_atop entries sc h with ⟨value?, hvalue⟩ | ⟨-, hvalue⟩
    · cases value? with
      | none => exact ⟨some _, fun text => by simp only [unresolved?, hvalue]; rfl⟩
      | some value => exact ⟨none, fun text => by simp only [unresolved?, hvalue]⟩
    · exact ⟨none, fun text => by simp only [unresolved?, hvalue]⟩

lemma join_write_atop {segments : List Segment} (h : ∀ s ∈ segments, s.Quotes key) :
    ∃ sk, ∀ text, String.join (segments.map (write (sc.atop entries key (.string text)) d))
      = written d text sk := by
  induction segments with
  | nil => exact ⟨[], fun text => rfl⟩
  | cons s segments ih =>
    obtain ⟨sk, hsk⟩ := write_atop entries d sc (h s List.mem_cons_self)
    obtain ⟨sk', hsk'⟩ := ih fun s hs => h s (List.mem_cons_of_mem _ hs)
    refine ⟨sk ++ sk', fun text => ?_⟩
    rw [List.map_cons, String.join_cons, hsk, hsk', written_append]

lemma filterMap_unresolved?_atop {segments : List Segment} (h : ∀ s ∈ segments, s.Quotes key) :
    ∃ us, ∀ text, segments.filterMap (unresolved? (sc.atop entries key (.string text))) = us := by
  induction segments with
  | nil => exact ⟨[], fun text => rfl⟩
  | cons s segments ih =>
    obtain ⟨u, hu⟩ := unresolved?_atop entries sc (h s List.mem_cons_self)
    obtain ⟨us, hus⟩ := ih fun s hs => h s (List.mem_cons_of_mem _ hs)
    refine ⟨u.toList ++ us, fun text => ?_⟩
    rw [List.filterMap_cons, hu, hus]
    cases u <;> rfl

end Segment

/-- All markers of a text write the text under the key as a literal, or do not read it. -/
def TextQuotes (key text : String) : Prop := ∀ s ∈ Segment.all text.toList, s.Quotes key

lemma substitute_atop (entries : KeyMap Json) {key : String} (d : Dialect) (sc : Scope)
    {source : String} (h : TextQuotes key source) :
    ∃ r : Except SqlError Skeleton, ∀ text,
      substitute (sc.atop entries key (.string text)) d source = r.map (written d text) := by
  obtain ⟨sk, hsk⟩ := Segment.join_write_atop entries d sc h
  obtain ⟨us, hus⟩ := Segment.filterMap_unresolved?_atop entries sc h
  simp only [substitute, hsk, hus]
  by_cases hempty : us.isEmpty = true
  · exact ⟨.ok sk, fun text => if_pos hempty⟩
  · exact ⟨.error _, fun text => if_neg hempty⟩

/-- No marker of a text reads the key. -/
def TextAvoids (key text : String) : Prop := ∀ s ∈ Segment.all text.toList, s.Avoids key

lemma substitute_over_of_avoids (entries : KeyMap Json) {key : String} (d : Dialect) (sc : Scope)
    {source : String} (h : TextAvoids key source) (text : String) :
    substitute (sc.atop entries key (.string text)) d source
      = substitute { sc with base := .object entries } d source := by
  have hvalue : ∀ s ∈ Segment.all source.toList, ∀ sigil inside, s = .marker sigil inside →
      Segment.value? (sc.atop entries key (.string text)) inside
        = Segment.value? { sc with base := .object entries } inside := by
    rintro s hs sigil inside rfl
    unfold Segment.value?
    rw [Scope.resolve?_atop (h _ hs) (.string text) sc]
  have hwrite : (Segment.all source.toList).map
      (Segment.write (sc.atop entries key (.string text)) d)
      = (Segment.all source.toList).map (Segment.write { sc with base := .object entries } d) := by
    refine List.map_congr_left fun s hs => ?_
    cases s with
    | plain c => rfl
    | marker sigil inside => simp only [Segment.write, hvalue _ hs sigil inside rfl]
  have hunresolved : (Segment.all source.toList).filterMap
      (Segment.unresolved? (sc.atop entries key (.string text)))
      = (Segment.all source.toList).filterMap
        (Segment.unresolved? { sc with base := .object entries }) := by
    refine List.filterMap_congr fun s hs => ?_
    cases s with
    | plain c => rfl
    | marker sigil inside => simp only [Segment.unresolved?, hvalue _ hs sigil inside rfl]
  simp only [substitute, hwrite, hunresolved]

end QueryLoom.Markup

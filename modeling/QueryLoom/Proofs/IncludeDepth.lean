import QueryLoom.Proofs.RenderSteps

/-!
# The depth of includes

Here an include renders its fragment by the same rules, however deep it is, and only the number of
open includes, which is kept in the session, decides whether it is refused. What is done for
includes deeper than that number allows is left open, and never matters: the recursion returns, and
with what rendering with a bound gives.
-/

namespace QueryLoom.Markup

variable {σ : Type}

/-! ### Sessions with a trace -/

/-- What is known about the includes so far. -/
structure Trace where
  /-- How many are open. -/
  opened : Nat
  /-- How many were open at once at most. -/
  most : Nat
  /-- Those that were found, each with the number that were open then. -/
  reached : List (String × Nat)

namespace Trace

/-- Nothing was included yet. -/
def start : Trace := ⟨0, 0, []⟩

/-- An include was found. -/
def reach (reference : String) (t : Trace) : Trace :=
  { t with reached := t.reached ++ [(reference, t.opened)] }

/-- An include is opened. -/
def enter (t : Trace) : Trace :=
  { t with opened := t.opened + 1, most := max t.most (t.opened + 1) }

/-- An include is closed. -/
def leave (t : Trace) : Trace := { t with opened := t.opened - 1 }

end Trace

/-- The session, with a trace. -/
def Session.tracing (s : Session σ) (t : Trace) : Session (σ × Trace) :=
  ⟨s.scope, (s.expansion, t), s.events⟩

/-- The setting for sessions with a trace, which no expansion changes. -/
def Setting.tracing (setting : Setting σ) : Setting (σ × Trace) where
  namespaces := setting.namespaces
  fragment? := setting.fragment?
  dialect := setting.dialect
  expand text view state :=
    (setting.expand text view state.1).map fun (text, expansion) => (text, (expansion, state.2))

/-- Expanding some text can raise an error. -/
def Setting.Raises (setting : Setting σ) (e : SqlError) : Prop :=
  ∃ text view x, setting.expand text view x = .error e

namespace Render

variable {α β : Type} {setting : Setting σ} {opened depth : Nat}

/-! ### The recursion -/

/-- The refusal of an include for its depth. -/
def tooDeep (reference : String) : SqlError :=
  .malformedTag "include" (.includeTooDeep reference maxIncludes)

/-- Change the trace. -/
def note (f : Trace → Trace) : StateM (Session (σ × Trace)) Unit :=
  modify fun s => { s with expansion := (s.expansion.1, f s.expansion.2) }

/-- Take a step inside an include, which is left also after an error. -/
def inside (step : Render (σ × Trace) α) : Render (σ × Trace) α :=
  ExceptT.mk do
    note .enter
    let r ← step.run
    note .leave
    return r

/-- What an include gives if `included` says what the includes in its fragment give. -/
def includeGuarded (setting : Setting σ) (included : Inclusion → Render (σ × Trace) String)
    (found : Inclusion) : Render (σ × Trace) String := do
  ExceptT.lift (note (.reach found.reference))
  if maxIncludes ≤ (← get).expansion.2.opened then throw (tooDeep found.reference)
  else inside (withFrame found.frame (nodes setting.tracing included found.nodes))

/-- What an include gives by its own rule, which is followed for `depth` includes inside each
other; `beyond` says what those deeper inside give. -/
def includeUnfolded (setting : Setting σ) (beyond : Inclusion → Render (σ × Trace) String) :
    (depth : Nat) → Inclusion → Render (σ × Trace) String
  | 0 => beyond
  | depth + 1 => includeGuarded setting (includeUnfolded setting beyond depth)

/-! ### Accounts -/

/-- The includes that were reached explain a result: none was reached with more open than allowed,
and the result is the refusal of one exactly if it was reached with all of them open. Only the
expansion of a text can raise the same error. -/
structure Accounts (setting : Setting σ) (r : SqlResult α) (reached : List (String × Nat)) :
    Prop where
  bounded : ∀ x ∈ reached, x.2 ≤ maxIncludes
  refused : ∀ reference, (reference, maxIncludes) ∈ reached → r = .error (tooDeep reference)
  explained : ∀ reference, r = .error (tooDeep reference) →
    (reference, maxIncludes) ∈ reached ∨ setting.Raises (tooDeep reference)

namespace Accounts

lemma nil {r : SqlResult α}
    (h : ∀ reference, r = .error (tooDeep reference) → setting.Raises (tooDeep reference)) :
    Accounts setting r [] where
  bounded := by simp
  refused := by simp
  explained reference hr := .inr (h reference hr)

lemma of_ordinary {r : SqlResult α} (h : Ordinary r) : Accounts setting r [] :=
  nil fun _ hr => (h _ hr trivial).elim

lemma error {e : SqlError} {reached : List (String × Nat)}
    (h : Accounts setting (.error e : SqlResult α) reached) :
    Accounts setting (.error e : SqlResult β) reached where
  bounded := h.bounded
  refused reference hmem := by
    rw [Except.error.inj (h.refused reference hmem)]
  explained reference hr := h.explained reference (by rw [Except.error.inj hr])

/-- A step that was taken refused no include. -/
lemma append {a : α} {r : SqlResult β} {reached more : List (String × Nat)}
    (h : Accounts setting (.ok a : SqlResult α) reached) (hmore : Accounts setting r more) :
    Accounts setting r (reached ++ more) where
  bounded x hx := (List.mem_append.mp hx).elim (h.bounded x) (hmore.bounded x)
  refused reference hmem := by
    rcases List.mem_append.mp hmem with hmem | hmem
    · cases h.refused reference hmem
    · exact hmore.refused reference hmem
  explained reference hr := (hmore.explained reference hr).imp_left (List.mem_append_right _)

/-- The limit refuses an include that was reached with all of them open. -/
lemma tooDeep (reference : String) :
    Accounts setting (.error (Render.tooDeep reference) : SqlResult α)
      [(reference, maxIncludes)] where
  bounded := by simp
  refused reference' hmem := by
    obtain ⟨rfl, -⟩ : reference' = reference ∧ maxIncludes = maxIncludes := by simpa using hmem
    rfl
  explained reference' hr := by
    obtain rfl : reference = reference' := by simpa [Render.tooDeep] using hr
    exact .inl (List.mem_singleton_self _)

lemma cons {r : SqlResult α} {more : List (String × Nat)} (h : Accounts setting r more)
    (hopened : opened < maxIncludes) (reference : String) :
    Accounts setting r ((reference, opened) :: more) where
  bounded := List.forall_mem_cons.mpr ⟨Nat.le_of_lt hopened, h.bounded⟩
  refused reference' hmem := by
    rcases List.mem_cons.mp hmem with heq | hmem
    · exact absurd (congrArg Prod.snd heq) (Nat.ne_of_gt hopened)
    · exact h.refused reference' hmem
  explained reference' hr := (h.explained reference' hr).imp_left (List.mem_cons_of_mem _)

end Accounts

/-- The step in sessions with a trace does what the other step does while `opened` includes are
open, opens no more than allowed, leaves as many open, and accounts for its result. -/
def SameWithTrace (setting : Setting σ) (opened : Nat) (step : Render σ α)
    (step' : Render (σ × Trace) α) : Prop :=
  ∀ (s : Session σ) (most : Nat) (reached : List (String × Nat)), most ≤ maxIncludes →
    ∃ most' more, most' ≤ maxIncludes ∧ Accounts setting (step.run s).1 more ∧
      step'.run (s.tracing ⟨opened, most, reached⟩) =
        ((step.run s).1, (step.run s).2.tracing ⟨opened, most', reached ++ more⟩)

namespace SameWithTrace

variable {step : Render σ α} {step' : Render (σ × Trace) α}

/-- A step that does not look at the trace. -/
lemma of_untraced (haccounts : ∀ s, Accounts setting (step.run s).1 [])
    (h : ∀ s t, step'.run (s.tracing t) = ((step.run s).1, (step.run s).2.tracing t)) :
    SameWithTrace setting opened step step' := by
  intro s most reached hmost
  refine ⟨most, [], hmost, haccounts s, ?_⟩
  rw [h, List.append_nil]

lemma bind {next : α → Render σ β} {next' : α → Render (σ × Trace) β}
    (h : SameWithTrace setting opened step step')
    (hnext : ∀ a, SameWithTrace setting opened (next a) (next' a)) :
    SameWithTrace setting opened (step >>= next) (step' >>= next') := by
  intro s most reached hmost
  obtain ⟨most₁, more₁, hmost₁, haccounts₁, hrun₁⟩ := h s most reached hmost
  rw [run_bind step', hrun₁]
  rcases run_bind_cases step next s with ⟨e, s', hrun, hbind⟩ | ⟨a, s', hrun, hbind⟩
  · rw [hrun] at haccounts₁ ⊢
    rw [hbind]
    exact ⟨most₁, more₁, hmost₁, haccounts₁.error, rfl⟩
  · rw [hrun] at haccounts₁ ⊢
    obtain ⟨most₂, more₂, hmost₂, haccounts₂, hrun₂⟩ := hnext a s' most₁ (reached ++ more₁) hmost₁
    rw [hbind]
    refine ⟨most₂, more₁ ++ more₂, hmost₂, haccounts₁.append haccounts₂, ?_⟩
    rw [← List.append_assoc]
    exact hrun₂

lemma withFrame (h : SameWithTrace setting opened step step') (frame : KeyMap Json) :
    SameWithTrace setting opened (withFrame frame step) (withFrame frame step') := by
  intro s most reached hmost
  obtain ⟨most', more, hmost', haccounts, hrun⟩ :=
    h { s with scope := s.scope.push frame } most reached hmost
  refine ⟨most', more, hmost', haccounts, ?_⟩
  rw [run_withFrame, run_withFrame]
  simp only [Session.tracing] at hrun ⊢
  simp only [hrun]

/-- One more include is open in between only. -/
lemma inside (h : SameWithTrace setting (opened + 1) step step') (hopened : opened < maxIncludes) :
    SameWithTrace setting opened step (inside step') := by
  intro s most reached hmost
  obtain ⟨most', more, hmost', haccounts, hrun⟩ :=
    h s (max most (opened + 1)) reached (by omega)
  refine ⟨most', more, hmost', haccounts, ?_⟩
  change (match step'.run (s.tracing ⟨opened + 1, max most (opened + 1), reached⟩) with
    | (r, s') => (r, { s' with expansion := (s'.expansion.1, s'.expansion.2.leave) })) = _
  rw [hrun]
  rfl

lemma expand (setting : Setting σ) (text : String) :
    SameWithTrace setting opened (expand setting text) (Render.expand setting.tracing text) := by
  refine of_untraced (fun s => .nil fun reference hr => ?_) fun s t => ?_
  · rw [run_expand] at hr
    split at hr
    · refine ⟨text, s.scope.flatten, s.expansion, ?_⟩
      cases hx : setting.expand text s.scope.flatten s.expansion with
      | error e => simpa [hx] using hr
      | ok found => simp [hx] at hr
    · cases hr
  · rw [run_expand, run_expand]
    split
    · dsimp only [Setting.tracing, Session.tracing]
      cases setting.expand text s.scope.flatten s.expansion <;> rfl
    · rfl

lemma congruence (setting : Setting σ) (opened : Nat) :
    Congruence fun {α} (step : Render σ α) => SameWithTrace setting opened step where
  lift hr := of_untraced (fun _ => .of_ordinary hr) fun _ _ => rfl
  bind := bind
  scope := of_untraced (fun _ => .of_ordinary (.ok _)) fun _ _ => rfl
  record _ := of_untraced (fun _ => .of_ordinary (.ok _)) fun _ _ => rfl
  setValue _ _ := of_untraced (fun _ => .of_ordinary (.ok _)) fun _ _ => rfl
  withFrame frame h := h.withFrame frame

lemma corresponds (setting : Setting σ) (opened : Nat) :
    Corresponds (fun {α} (step : Render σ α) => SameWithTrace setting opened step) setting
      setting.tracing where
  namespaces := rfl
  fragments := rfl
  dialect := rfl
  expand := expand setting
  missing _ _ := of_untraced (fun _ => .nil fun _ hr => nomatch hr) fun _ _ => rfl

end SameWithTrace

/-! ### Includes -/

lemma run_includeGuarded (included : Inclusion → Render (σ × Trace) String) (found : Inclusion)
    (s : Session σ) (t : Trace) :
    (includeGuarded setting included found).run (s.tracing t) =
      if maxIncludes ≤ t.opened then
        (.error (tooDeep found.reference), s.tracing (t.reach found.reference))
      else
        (inside (withFrame found.frame (nodes setting.tracing included found.nodes))).run
          (s.tracing (t.reach found.reference)) := by
  have hnote : (ExceptT.lift (note (.reach found.reference)) : Render (σ × Trace) Unit).run
      (s.tracing t) = (.ok (), s.tracing (t.reach found.reference)) := rfl
  have hcount : (s.tracing (t.reach found.reference)).expansion.2.opened = t.opened := rfl
  rw [includeGuarded, run_bind, hnote]
  dsimp only
  rw [run_bind, run_get]
  dsimp only
  rw [hcount]
  split <;> rfl

/-- An include that is followed deeper than may be open does what it does with a bound. -/
lemma sameWithTrace_include (setting : Setting σ)
    (beyond : Inclusion → Render (σ × Trace) String) (hopened : opened ≤ maxIncludes)
    (hdepth : maxIncludes < opened + depth) (found : Inclusion) :
    SameWithTrace setting opened (includeWithin setting (maxIncludes - opened) found)
      (includeUnfolded setting beyond depth found) := by
  induction depth generalizing opened found with
  | zero => omega
  | succ depth ih =>
    intro s most reached hmost
    rw [includeUnfolded, run_includeGuarded]
    by_cases hfull : maxIncludes ≤ opened
    · obtain rfl : opened = maxIncludes := Nat.le_antisymm hopened hfull
      rw [if_pos hfull, Nat.sub_self]
      exact ⟨most, [(found.reference, maxIncludes)], hmost, .tooDeep found.reference, rfl⟩
    · have hlt : opened < maxIncludes := Nat.lt_of_not_le hfull
      have hroom : maxIncludes - opened = maxIncludes - (opened + 1) + 1 := by omega
      have hnodes : SameWithTrace setting (opened + 1)
          (nodes setting (includeWithin setting (maxIncludes - (opened + 1))) found.nodes)
          (nodes setting.tracing (includeUnfolded setting beyond depth) found.nodes) :=
        nodes_related (SameWithTrace.congruence setting _) (SameWithTrace.corresponds setting _)
          (ih hlt (by omega)) found.nodes
      obtain ⟨most', more, hmost', haccounts, hrun⟩ :=
        (hnodes.withFrame found.frame).inside hlt s most
          (reached ++ [(found.reference, opened)]) hmost
      rw [if_neg hfull, hroom, includeWithin]
      refine ⟨most', (found.reference, opened) :: more, hmost', haccounts.cons hlt _, ?_⟩
      rw [List.append_assoc, List.singleton_append] at hrun
      exact hrun

end Render

open Render

lemma message_tooDeep (reference : String) : (tooDeep reference).message =
    "Malformed tag <include>: '" ++ reference ++ "' nested deeper than 16" := by
  have hlimit : toString maxIncludes = "16" := by decide
  unfold tooDeep SqlError.message
  dsimp only
  unfold TagFault.message
  dsimp only
  rw [hlimit]
  change "Malformed tag <" ++ "include" ++ ">: " ++
    ("'" ++ reference ++ "' nested deeper than " ++ "16") = _
  apply String.toList_inj.mp
  simp

/-- Rendering a document returns, whatever fragments there are and however they include each other:
followed for more includes inside each other than may be open, the recursion comes to the result of
rendering whatever is done for those deeper inside. No more than 16 includes are open at once, and
none is afterwards. The result is that an include is nested too deep if one was reached with 16
open; otherwise only the expansion of a text can raise that error. -/
theorem render_returns (setting : Setting σ) (ns : List Node) (bag : Json) (expansion : σ) :
    let start : Session σ := ⟨Scope.ofBag bag, expansion, []⟩
    let rendered := (document setting ns).run start
    render setting ns bag expansion =
        ⟨rendered.1.map fun text => (text, rendered.2.expansion), rendered.2.events⟩ ∧
      (∀ beyond depth, 16 < depth → ∃ (most : Nat) (reached : List (String × Nat)),
        (nodes setting.tracing (includeUnfolded setting beyond depth) ns).run (start.tracing .start)
          = (rendered.1, rendered.2.tracing ⟨0, most, reached⟩) ∧
        most ≤ 16 ∧
        (∀ x ∈ reached, x.2 ≤ 16) ∧
        (∀ reference, (reference, 16) ∈ reached → rendered.1 = .error (tooDeep reference)) ∧
        ∀ reference, rendered.1 = .error (tooDeep reference) →
          (reference, 16) ∈ reached ∨ setting.Raises (tooDeep reference)) ∧
      ∀ reference, (tooDeep reference).message =
        "Malformed tag <include>: '" ++ reference ++ "' nested deeper than 16" := by
  intro start rendered
  refine ⟨rfl, fun beyond depth hdepth => ?_, message_tooDeep⟩
  have hinclude := sameWithTrace_include setting beyond (Nat.zero_le _)
    (show maxIncludes < 0 + depth by simpa [maxIncludes] using hdepth)
  have hnodes : SameWithTrace setting 0 (document setting ns)
      (nodes setting.tracing (includeUnfolded setting beyond depth) ns) :=
    nodes_related (SameWithTrace.congruence setting 0) (SameWithTrace.corresponds setting 0)
      hinclude ns
  obtain ⟨most, reached, hmost, haccounts, hrun⟩ := hnodes start 0 [] (Nat.zero_le _)
  exact ⟨most, reached, hrun, hmost, haccounts.bounded, haccounts.refused, haccounts.explained⟩

/-- A setting with a fragment that includes itself. -/
def selfIncluding : Setting Unit where
  namespaces := ["n"]
  fragment? name := if name = "n.a" then some [.element "include" [("refid", "a")] []] else none
  dialect := .mysql
  expand text _ x := .ok (text, x)

/-- A fragment that includes itself is opened 16 times, and then refused. -/
theorem render_returns_cycle :
    (render selfIncluding [.element "include" [("refid", "a")] []] .null ()).value
        = .error (tooDeep "a") ∧
      ∀ beyond, ∃ (most : Nat) (reached : List (String × Nat)),
        (nodes selfIncluding.tracing (includeUnfolded selfIncluding beyond 17)
            [.element "include" [("refid", "a")] []]).run
          (Session.tracing ⟨Scope.ofBag .null, (), []⟩ .start)
            = (.error (tooDeep "a"),
              Session.tracing ⟨Scope.ofBag .null, (), []⟩ ⟨0, most, reached⟩) ∧
        most ≤ 16 ∧ ("a", 16) ∈ reached := by
  have hrun : (document selfIncluding [.element "include" [("refid", "a")] []]).run
      ⟨Scope.ofBag .null, (), []⟩ = (.error (tooDeep "a"), ⟨Scope.ofBag .null, (), []⟩) := by
    set_option maxRecDepth 4000 in with_unfolding_all rfl
  obtain ⟨hrender, hreturns, -⟩ :=
    render_returns selfIncluding [.element "include" [("refid", "a")] []] .null ()
  rw [hrun] at hrender hreturns
  refine ⟨by rw [hrender]; rfl, fun beyond => ?_⟩
  obtain ⟨most, reached, htraced, hmost, -, -, hreached⟩ := hreturns beyond 17 (by decide)
  refine ⟨most, reached, htraced, hmost, (hreached "a" rfl).resolve_right ?_⟩
  rintro ⟨text, view, x, hraises⟩
  cases hraises

end QueryLoom.Markup

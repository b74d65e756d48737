import QueryLoom.Proofs.RenderSteps

/-!
# Counting open includes

How many includes are open is not part of a session: it is known from how many more may be opened.
Here it is counted in the session, up by one when an include is opened and down by one when it is
closed, also after an error. Both ways of rendering give the same results and leave the same
sessions, and the count is afterwards what it was before.
-/

namespace QueryLoom.Markup

variable {σ : Type}

/-! ### Sessions with a count -/

/-- The session, with a number of open includes. -/
def Session.counting (s : Session σ) (count : Nat) : Session (σ × Nat) :=
  ⟨s.scope, (s.expansion, count), s.events⟩

/-- The setting for sessions with a count, which no expansion changes. -/
def Setting.counting (setting : Setting σ) : Setting (σ × Nat) where
  namespaces := setting.namespaces
  fragment? := setting.fragment?
  dialect := setting.dialect
  expand text view state :=
    (setting.expand text view state.1).map fun (text, expansion) => (text, (expansion, state.2))

namespace Render

variable {α : Type} {setting : Setting σ} {count room : Nat}

/-- Change the count of open includes. -/
def changeCount (f : Nat → Nat) : StateM (Session (σ × Nat)) Unit :=
  modify fun s => { s with expansion := (s.expansion.1, f s.expansion.2) }

/-- Take a step while one more include is open, which is closed again also after an error. -/
def whileOpen (step : Render (σ × Nat) α) : Render (σ × Nat) α :=
  ExceptT.mk do
    changeCount (· + 1)
    let r ← step.run
    changeCount (· - 1)
    return r

/-- Render an include, unless too many are open. No more than `budget` includes can be opened one
inside the other. -/
def includeCounting (setting : Setting σ) :
    (budget : Nat) → Inclusion → Render (σ × Nat) String
  | 0, found => throw (.malformedTag "include" (.includeTooDeep found.reference maxIncludes))
  | budget + 1, found => do
    if maxIncludes ≤ (← get).expansion.2 then
      throw (.malformedTag "include" (.includeTooDeep found.reference maxIncludes))
    else
      whileOpen <| withFrame found.frame <|
        nodes setting.counting (includeCounting setting budget) found.nodes

/-- The step in sessions with a count does what the other step does, and leaves the count as it
is. -/
def SameWithCount (count : Nat) (step : Render σ α) (step' : Render (σ × Nat) α) : Prop :=
  ∀ s : Session σ, step'.run (s.counting count) =
    ((step.run s).1, (step.run s).2.counting count)

/-! ### Steps -/

lemma sameWithCount_congruence (count : Nat) :
    Congruence fun {α} (step : Render σ α) => SameWithCount count step where
  lift _ _ := rfl
  bind {_ _ step step' next next'} hstep hnext s := by
    have hs := hstep s
    rw [run_bind, hs]
    rcases run_bind_cases step next s with ⟨e, s', hrun, hbind⟩ | ⟨a, s', hrun, hbind⟩
    · rw [hbind, hrun]
    · rw [hbind, hrun]
      exact hnext a s'
  scope _ := rfl
  record _ _ := rfl
  setValue _ _ _ := rfl
  withFrame {_ step step'} frame hstep s := by
    have hpushed := hstep { s with scope := s.scope.push frame }
    rw [run_withFrame, run_withFrame]
    simp only [Session.counting] at hpushed ⊢
    simp only [hpushed]

lemma sameWithCount_expand (setting : Setting σ) (text : String) :
    SameWithCount count (expand setting text) (expand setting.counting text) := by
  intro s
  rw [run_expand, run_expand]
  split
  · dsimp only [Setting.counting, Session.counting]
    cases setting.expand text s.scope.flatten s.expansion <;> rfl
  · rfl

lemma corresponds_counting (setting : Setting σ) (count : Nat) :
    Corresponds (fun {α} (step : Render σ α) => SameWithCount count step) setting
      setting.counting where
  namespaces := rfl
  fragments := rfl
  dialect := rfl
  expand := sameWithCount_expand setting
  missing _ _ _ := rfl

/-- One more include is open in between only. -/
lemma SameWithCount.whileOpen {step : Render σ α} {step' : Render (σ × Nat) α}
    (h : SameWithCount (count + 1) step step') : SameWithCount count step (whileOpen step') := by
  intro s
  change (match step'.run (s.counting (count + 1)) with
    | (r, s') => (r, { s' with expansion := (s'.expansion.1, s'.expansion.2 - 1) })) = _
  rw [h s]
  rfl

/-! ### Includes -/

lemma run_includeCounting (setting : Setting σ) (budget : Nat) (found : Inclusion)
    (s : Session σ) (count : Nat) :
    (includeCounting setting (budget + 1) found).run (s.counting count) =
      if maxIncludes ≤ count then
        (.error (.malformedTag "include" (.includeTooDeep found.reference maxIncludes)),
          s.counting count)
      else
        (whileOpen (withFrame found.frame
          (nodes setting.counting (includeCounting setting budget) found.nodes))).run
            (s.counting count) := by
  rw [includeCounting, run_bind, run_get]
  by_cases hfull : maxIncludes ≤ count
  · have hfull' : maxIncludes ≤ (s.counting count).expansion.2 := hfull
    simp only [if_pos hfull, if_pos hfull', run_throw]
  · have hfull' : ¬ maxIncludes ≤ (s.counting count).expansion.2 := hfull
    simp only [if_neg hfull, if_neg hfull']

/-- As many includes may be opened as there is room for above the count. -/
lemma sameWithCount_include (setting : Setting σ) {budget : Nat} (h : maxIncludes ≤ count + budget)
    (found : Inclusion) : SameWithCount count
      (includeWithin setting (maxIncludes - count) found) (includeCounting setting budget found) := by
  induction budget generalizing count found with
  | zero =>
    have hroom : maxIncludes - count = 0 := Nat.sub_eq_zero_of_le h
    intro s
    rw [hroom]
    rfl
  | succ budget ih =>
    intro s
    rw [run_includeCounting]
    by_cases hfull : maxIncludes ≤ count
    · have hroom : maxIncludes - count = 0 := Nat.sub_eq_zero_of_le hfull
      rw [if_pos hfull, hroom]
      rfl
    · have hroom : maxIncludes - count = maxIncludes - (count + 1) + 1 := by omega
      have hnodes : SameWithCount (count + 1)
          (nodes setting (includeWithin setting (maxIncludes - (count + 1))) found.nodes)
          (nodes setting.counting (includeCounting setting budget) found.nodes) :=
        nodes_related (sameWithCount_congruence _) (corresponds_counting setting _)
          (ih (by omega)) found.nodes
      have hframe := (sameWithCount_congruence _).withFrame found.frame hnodes
      rw [if_neg hfull, hroom, includeWithin]
      exact hframe.whileOpen s

/-- Rendering a node with the count in the session. -/
lemma sameWithCount_node (setting : Setting σ) (count : Nat) (n : Node) :
    SameWithCount count (node setting (includeWithin setting (maxIncludes - count)) n)
      (node setting.counting (includeCounting setting maxIncludes) n) :=
  node_related (sameWithCount_congruence count) (corresponds_counting setting count)
    (sameWithCount_include setting (Nat.le_add_left _ _)) n

end Render

end QueryLoom.Markup

import Mathlib.Tactic.Lemma
import QueryLoom.Execution

/-!
# Statements that give rows

Of some statements that are run in order, one is asked for its rows. Where none of them fails, the
others are run, each once, before it and after it, and its rows are the result.
-/

namespace QueryLoom.Execution

variable {σ α β : Type}

/-! ### Statements that do not fail -/

/-- No statement fails, in whatever state it is run. -/
structure NeverFails (x : Executor σ) : Prop where
  run : ∀ s state, ∃ outcome, ((x.run s).run state).1 = .ok outcome
  query : ∀ s state, ∃ rows, ((x.query s).run state).1 = .ok rows

/-- The state after statements that give no rows were run in order. -/
def stateAfter (x : Executor σ) (ss : List Statement) (state : σ) : σ :=
  ss.foldl (fun state s => ((x.run s).run state).2) state

/-! ### Runs -/

lemma apply_bind {e : Execution σ α} {state state' : σ} {a : α}
    (h : apply e state = (state', ⟨.ok a, []⟩)) (f : α → Execution σ β) :
    apply (e >>= f) state = apply (f a) state' := by
  obtain ⟨hstate, hvalue, hevents⟩ : _ ∧ _ ∧ _ := by
    simpa only [apply, Prod.mk.injEq, Logged.mk.injEq] using h
  simp only [StateT.run, ExceptT.run] at hstate hvalue hevents
  simp only [apply, bind, ExceptT.bind, ExceptT.mk, ExceptT.run, StateT.bind, StateT.run, hstate,
    hvalue, hevents, ExceptT.bindCont, List.nil_append]

lemma apply_attempt {step : StateM σ (SqlResult α)} {state : σ} {a : α}
    (h : (step.run state).1 = .ok a) (position : Nat) (s : Statement) :
    apply (attempt position s step) state = ((step.run state).2, ⟨.ok a, []⟩) := by
  cases hstep : step.run state with
  | mk result state' =>
    obtain rfl : result = .ok a := by rwa [hstep] at h
    have hget : apply (get : Execution σ σ) state = (state, ⟨.ok state, []⟩) := rfl
    rw [attempt, apply_bind hget, hstep]
    rfl

/-- Behind the position that is asked for its rows, these are kept. -/
lemma apply_queryFrom_of_lt {x : Executor σ} (hx : NeverFails x) (rows : List Row)
    {queryStep position : Nat} (h : queryStep < position) (ss : List Statement) (state : σ) :
    apply (queryFrom x queryStep rows position ss) state
      = (stateAfter x ss state, ⟨.ok rows, []⟩) := by
  induction ss generalizing position state with
  | nil => rfl
  | cons s ss ih =>
    obtain ⟨outcome, hrun⟩ := hx.run s state
    rw [queryFrom, if_neg (by omega), apply_bind (apply_attempt hrun position s)]
    exact ih (by omega) _

lemma apply_queryFrom {x : Executor σ} (hx : NeverFails x) (rows : List Row) (position : Nat)
    (before : List Statement) (s : Statement) (after : List Statement) (state : σ) :
    ∃ found, ((x.query s).run (stateAfter x before state)).1 = .ok found ∧
      apply (queryFrom x (position + before.length) rows position (before ++ s :: after)) state
        = (stateAfter x after ((x.query s).run (stateAfter x before state)).2,
            ⟨.ok found, []⟩) := by
  induction before generalizing position state with
  | nil =>
    obtain ⟨found, hquery⟩ := hx.query s state
    refine ⟨found, hquery, ?_⟩
    rw [List.nil_append, queryFrom, if_pos (by simp), apply_bind (apply_attempt hquery position s)]
    exact apply_queryFrom_of_lt hx found (by simp) after _
  | cons s' before ih =>
    obtain ⟨outcome, hrun⟩ := hx.run s' state
    obtain ⟨found, hfound, hrest⟩ := ih (position + 1) ((x.run s').run state).2
    refine ⟨found, hfound, ?_⟩
    rw [List.cons_append, queryFrom, if_neg (by rw [List.length_cons]; omega),
      apply_bind (apply_attempt hrun position s'), List.length_cons]
    rw [Nat.add_right_comm, Nat.add_assoc] at hrest
    exact hrest

/-- The statement at a position gives the result: where nothing fails, it is asked for its rows, and
all others are run, in order. -/
def AnswersAt (ss : List Statement) (position : Nat) (s : Statement) : Prop :=
  ss[position]? = some s ∧
    ∀ {σ : Type} {x : Executor σ}, NeverFails x → ∀ state, ∃ found,
      ((x.query s).run (stateAfter x (ss.take position) state)).1 = .ok found ∧
      apply (queryAll x ss position) state
        = (stateAfter x (ss.drop (position + 1))
            ((x.query s).run (stateAfter x (ss.take position) state)).2, ⟨.ok found, []⟩)

lemma answersAt_append (before : List Statement) (s : Statement) (after : List Statement) :
    AnswersAt (before ++ s :: after) before.length s := by
  refine ⟨by simp, fun {σ x} hx state => ?_⟩
  have hqueried := apply_queryFrom hx [] 0 before s after state
  rw [Nat.zero_add] at hqueried
  rwa [List.take_left, List.drop_length_add_append]

end QueryLoom.Execution

import Mathlib.Data.List.Chain
import Mathlib.Logic.Relation
import QueryLoom.Template.Store

/-!
# Chains of mentions

Templates mention templates, which mention others in turn. A template is registered exactly if its
text can be read and no chain of mentions that it begins is longer than the store allows; so no
template ever mentions itself, directly or through others.
-/

namespace QueryLoom

open Relation (TransGen ReflTransGen)

/-! ### Results of changes -/

namespace Template.StoreEdit

variable {α β : Type}

lemma apply_bind (edit : StoreEdit α) (f : α → StoreEdit β) (s : Store) :
    (edit >>= f).apply s =
      match edit.apply s with
      | (.ok a, s') => (f a).apply s'
      | (.error e, s') => (.error e, s') := by
  change ExceptT.bindCont f (edit.apply s).1 (edit.apply s).2 = _
  obtain ⟨result, s'⟩ := edit.apply s
  cases result <;> rfl

lemma apply_get (s : Store) : (get : StoreEdit Store).apply s = (.ok s, s) := rfl

/-- The store changes only after the mentions were checked and the text was read. -/
lemma apply_register (s : Store) (name text : String) : (register name text).apply s =
    match s.checkAll name (Store.namesIn text) with
    | .error fault => (.error (.parse [] fault), s)
    | .ok _ =>
      match Node.parse text with
      | .error reason => (.error (.parse [name] (.template reason)), s)
      | .ok nodes => (.ok (), KeyMap.insert name ⟨nodes, Store.namesIn text⟩ s) := by
  rw [register, apply_bind, apply_get]
  dsimp only
  cases s.checkAll name (Store.namesIn text) with
  | error fault => rfl
  | ok => cases Node.parse text <;> rfl

end Template.StoreEdit

namespace Template.Store

variable {s : Store} {name : String}

/-! ### Mentions -/

/-- A registered template mentions a name. -/
def Mentions (s : Store) (n m : String) : Prop := m ∈ s.references n

/-- The store in which a template mentions some names, whatever else it says. -/
def mentioning (s : Store) (name : String) (names : List String) : Store :=
  KeyMap.insert name ⟨[], names⟩ s

lemma references_insert (s : Store) (name : String) (r : Registered) (n : String) :
    references (KeyMap.insert name r s) n = if n = name then r.references else s.references n := by
  unfold references
  rw [KeyMap.get?_insert]
  split_ifs <;> rfl

lemma references_unregister (s : Store) (name n : String) :
    (s.unregister name).references n = if n = name then [] else s.references n := by
  unfold references unregister
  rw [KeyMap.get?_erase]
  split_ifs <;> rfl

lemma mentions_insert {r : Registered} {n m : String} :
    Mentions (KeyMap.insert name r s) n m ↔
      if n = name then m ∈ r.references else s.Mentions n m := by
  rw [Mentions, references_insert]
  split_ifs <;> rfl

lemma Mentions.of_unregister {n m : String} (h : (s.unregister name).Mentions n m) :
    s.Mentions n m := by
  rw [Mentions, references_unregister] at h
  split_ifs at h
  · cases h
  · exact h

/-! ### Depth -/

/-- No chain of mentions that begins with a name has more steps than the store allows. -/
def Shallow (s : Store) (n : String) : Prop :=
  ∀ ms, List.IsChain s.Mentions (n :: ms) → ms.length ≤ maxDepth

/-- What leads back to itself begins chains of any length. -/
lemma exists_isChain_of_transGen {α : Type} {r : α → α → Prop} {a : α} (h : TransGen r a a)
    (k : Nat) : ∃ as, as.length = k ∧ List.IsChain r (a :: as) := by
  induction k generalizing a with
  | zero => exact ⟨[], rfl, .singleton a⟩
  | succ k ih =>
    obtain ⟨b, hab, hba⟩ := TransGen.head'_iff.mp h
    obtain ⟨bs, hlength, hchain⟩ := ih (TransGen.tail' hba hab)
    exact ⟨b :: bs, congrArg Nat.succ hlength, .cons_cons hab hchain⟩

lemma Shallow.not_transGen {n : String} (h : s.Shallow n) : ¬ TransGen s.Mentions n n := by
  intro hcycle
  obtain ⟨ms, hlength, hchain⟩ := exists_isChain_of_transGen hcycle (maxDepth + 1)
  have hle := h ms hchain
  omega

/-! ### Checks -/

lemma forM_eq_ok {α ε : Type} {f : α → Except ε Unit} {xs : List α} :
    xs.forM f = .ok () ↔ ∀ x ∈ xs, f x = .ok () := by
  rw [List.forM_eq_forM]
  induction xs with
  | nil => simp [pure, Except.pure]
  | cons x xs ih =>
    rw [List.forM_cons, List.forall_mem_cons, ← ih]
    cases f x <;> simp [bind, Except.bind]

/-- A mention is let pass if all chains that begin with it are short and none leads to the
template. -/
lemma checkMention_eq_ok {room : Nat} {m : String} : s.checkMention name room m = .ok () ↔
    (∀ ms, List.IsChain s.Mentions (m :: ms) → ms.length < room) ∧
      ¬ ReflTransGen s.Mentions m name := by
  induction room generalizing m with
  | zero =>
    refine iff_of_false (by simp [checkMention]) fun h => ?_
    exact absurd (h.1 [] (.singleton m)) (by simp)
  | succ room ih =>
    have hcheck : s.checkMention name (room + 1) m = .ok () ↔
        m ≠ name ∧ ∀ m', s.Mentions m m' → s.checkMention name room m' = .ok () := by
      rw [checkMention]
      split_ifs with hself
      · simp [hself]
      · rw [forM_eq_ok]
        simp [hself, Mentions]
    rw [hcheck, ReflTransGen.cases_head_iff]
    simp only [ih]
    constructor
    · rintro ⟨hne, hbelow⟩
      refine ⟨fun ms hms => ?_, ?_⟩
      · cases hms with
        | singleton => simp
        | cons_cons hm hms => simpa using (hbelow _ hm).1 _ hms
      · rintro (hself | ⟨m', hm, hpath⟩)
        · exact hne hself
        · exact (hbelow m' hm).2 hpath
    · rintro ⟨hshort, hpath⟩
      refine ⟨fun hself => hpath (.inl hself), fun m' hm => ⟨fun ms hms => ?_, fun hpath' => ?_⟩⟩
      · simpa using hshort (m' :: ms) (.cons_cons hm hms)
      · exact hpath (.inr ⟨m', hm, hpath'⟩)

lemma checkAll_eq_ok {names : List String} : s.checkAll name names = .ok () ↔
    ∀ m ∈ names, (∀ ms, List.IsChain s.Mentions (m :: ms) → ms.length < maxDepth) ∧
      ¬ ReflTransGen s.Mentions m name := by
  rw [checkAll, forM_eq_ok]
  simp only [List.mem_reverse, checkMention_eq_ok]

lemma register_eq (s : Store) (name text : String) : s.register name text =
    match s.checkAll name (namesIn text) with
    | .error fault => .error (.parse [] fault)
    | .ok _ =>
      match Node.parse text with
      | .error reason => .error (.parse [name] (.template reason))
      | .ok nodes => .ok (KeyMap.insert name ⟨nodes, namesIn text⟩ s) := by
  rw [register, StoreEdit.accepted, StoreEdit.apply_register]
  cases s.checkAll name (namesIn text) with
  | error fault => rfl
  | ok => cases Node.parse text <;> rfl

/-- A registration that is refused leaves the store as it is. -/
lemma apply_register_eq (s : Store) (name text : String) : (StoreEdit.register name text).apply s =
    match s.register name text with
    | .ok s' => (.ok (), s')
    | .error e => (.error e, s) := by
  rw [register_eq, StoreEdit.apply_register]
  cases s.checkAll name (namesIn text) with
  | error fault => rfl
  | ok => cases Node.parse text <;> rfl

/-- Along chains that do not reach a template, it does not matter what the template mentions. -/
lemma isChain_insert_iff {r : Registered} {m : String} (h : ¬ ReflTransGen s.Mentions m name)
    {ms : List String} : List.IsChain (Mentions (KeyMap.insert name r s)) (m :: ms) ↔
      List.IsChain s.Mentions (m :: ms) := by
  induction ms generalizing m with
  | nil => simp
  | cons m' ms ih =>
    have hne : m ≠ name := by
      rintro rfl
      exact h .refl
    rw [List.isChain_cons_cons, List.isChain_cons_cons, mentions_insert, if_neg hne]
    exact and_congr_right fun hm => ih fun hpath => h (.head hm hpath)

/-- A path to a template does not lead through it. -/
lemma reflTransGen_insert {r : Registered} {m : String} (h : ReflTransGen s.Mentions m name) :
    ReflTransGen (Mentions (KeyMap.insert name r s)) m name := by
  induction h using ReflTransGen.head_induction_on with
  | refl => exact .refl
  | @head n m hm _ ih =>
    by_cases hn : n = name
    · rw [hn]
    · exact .head (mentions_insert.mpr (by rwa [if_neg hn])) ih

/-- The mentions of a template pass the checks exactly if, with them, no chain that begins with it
is too long. -/
lemma checkAll_iff_shallow {names : List String} {nodes : List Node} :
    s.checkAll name names = .ok () ↔ Shallow (KeyMap.insert name ⟨nodes, names⟩ s) name := by
  have hmentions {m : String} : Mentions (KeyMap.insert name ⟨nodes, names⟩ s) name m
      ↔ m ∈ names := by
    rw [mentions_insert, if_pos rfl]
  rw [checkAll_eq_ok]
  constructor
  · intro h ms hms
    cases hms with
    | singleton => simp
    | cons_cons hm hms =>
      obtain ⟨hshort, hpath⟩ := h _ (hmentions.mp hm)
      exact hshort _ ((isChain_insert_iff hpath).mp hms)
  · intro h m hm
    have hpath : ¬ ReflTransGen s.Mentions m name := fun hpath =>
      h.not_transGen (TransGen.head' (hmentions.mpr hm) (reflTransGen_insert hpath))
    refine ⟨fun ms hms => ?_, hpath⟩
    have hle := h (m :: ms) (.cons_cons (hmentions.mpr hm) ((isChain_insert_iff hpath).mpr hms))
    rwa [List.length_cons, Nat.succ_le_iff] at hle

/-- A template is registered exactly if its text can be read and no chain of mentions that begins
with it is too long. -/
lemma register_eq_ok {text : String} {s' : Store} : s.register name text = .ok s' ↔
    ∃ nodes, Node.parse text = .ok nodes ∧ s' = KeyMap.insert name ⟨nodes, namesIn text⟩ s ∧
      s'.Shallow name := by
  rw [register_eq]
  constructor
  · intro h
    cases hcheck : s.checkAll name (namesIn text) with
    | error fault => simp [hcheck] at h
    | ok =>
      cases hparse : Node.parse text with
      | error reason => simp [hcheck, hparse] at h
      | ok nodes =>
        obtain rfl : KeyMap.insert name ⟨nodes, namesIn text⟩ s = s' := by
          simpa [hcheck, hparse] using h
        exact ⟨nodes, rfl, rfl, checkAll_iff_shallow.mp hcheck⟩
  · rintro ⟨nodes, hparse, rfl, hshallow⟩
    have hcheck : s.checkAll name (namesIn text) = .ok () := checkAll_iff_shallow.mpr hshallow
    simp [hcheck, hparse]

/-! ### Changes of stores -/

/-- A change of a store that is asked for. -/
inductive Operation where
  | register (name text : String)
  | unregister (name : String)

/-- The change that is asked for. -/
def Operation.edit : Operation → StoreEdit Unit
  | .register name text => .register name text
  | .unregister name => .unregister name

/-- The store after a change that was asked for, if it is not refused. -/
def Operation.attempt (s : Store) (op : Operation) : SqlResult Store := op.edit.accepted s

/-- The store after a change that was asked for, also after one that is refused. -/
def Operation.run (s : Store) (op : Operation) : Store := (op.edit.apply s).2

/-- The store after some changes were asked for one after the other. -/
def runAll (s : Store) (ops : List Operation) : Store := ops.foldl Operation.run s

lemma Operation.attempt_register (text : String) :
    (Operation.register name text).attempt s = s.register name text := rfl

/-- A change that is refused leaves the store as it is. -/
lemma Operation.apply_edit (s : Store) (op : Operation) : op.edit.apply s =
    match op.attempt s with
    | .ok s' => (.ok (), s')
    | .error e => (.error e, s) := by
  cases op with
  | unregister name => rfl
  | register name text => exact apply_register_eq s name text

lemma Operation.run_register {text : String} {s' : Store} (h : s.register name text = .ok s') :
    (Operation.register name text).run s = s' := by
  rw [run, apply_edit, attempt_register, h]

lemma Operation.run_register_of_error {text : String} {err : SqlError}
    (h : s.register name text = .error err) : (Operation.register name text).run s = s := by
  rw [run, apply_edit, attempt_register, h]

lemma runAll_append_register {before : List Operation} {text : String} {s' : Store}
    (h : (s.runAll before).register name text = .ok s') (after : List Operation) :
    s.runAll (before ++ .register name text :: after) = s'.runAll after := by
  rw [runAll] at h
  rw [runAll, List.foldl_append, List.foldl_cons, Operation.run_register h, runAll]

/-- A change that is not refused registers a template such that no chain that begins with it is too
long, or removes one. -/
lemma Operation.run_cases (s : Store) (op : Operation) : op.run s = s ∨
    (∃ name text nodes, op = .register name text ∧
      op.run s = KeyMap.insert name ⟨nodes, namesIn text⟩ s ∧ (op.run s).Shallow name) ∨
    ∃ name, op = .unregister name ∧ op.run s = s.unregister name := by
  cases op with
  | unregister name => exact .inr (.inr ⟨name, rfl, rfl⟩)
  | register name text =>
    cases hregister : s.register name text with
    | error err =>
      exact .inl (run_register_of_error hregister)
    | ok s' =>
      rw [run_register hregister]
      obtain ⟨nodes, -, rfl, hshallow⟩ := register_eq_ok.mp hregister
      exact .inr (.inl ⟨name, text, nodes, rfl, rfl, hshallow⟩)

end Template.Store

end QueryLoom

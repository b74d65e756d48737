import Mathlib.Data.List.Nodup
import QueryLoom.Proofs.InsertionText

/-!
# How deep templates nest

A registration bounds the chains of mentions that begin with its template, and not those that lead
to it. So chains stay short where each template is registered after those it mentions; where it is
registered before them, nothing bounds the chains.
-/

namespace QueryLoom

open Relation (TransGen)

namespace Template.Store

variable {s : Store} {name : String}

/-! ### Chains above a template -/

/-- What is in a chain in front of its last name leads to that name. -/
lemma transGen_of_isChain {α : Type} {r : α → α → Prop} {a b : α} {as : List α}
    (h : List.IsChain r (as ++ [b])) (ha : a ∈ as) : TransGen r a b := by
  induction as generalizing a with
  | nil => cases ha
  | cons c as ih =>
    have hrest : List.IsChain r (as ++ [b]) := h.tail
    rcases List.mem_cons.mp ha with rfl | ha
    · cases as with
      | nil => exact .single (List.isChain_pair.mp h)
      | cons d as => exact .head (List.isChain_cons_cons.mp h).1 (ih hrest List.mem_cons_self)
    · exact ih hrest ha

/-- Where a template is not in a chain yet that leads to it, it does not matter what it mentions. -/
lemma isChain_concat_insert_iff {r : Registered} {above : List String} (h : name ∉ above) :
    List.IsChain (Mentions (KeyMap.insert name r s)) (above ++ [name]) ↔
      List.IsChain s.Mentions (above ++ [name]) := by
  induction above with
  | nil => simp
  | cons n above ih =>
    rw [List.mem_cons, not_or] at h
    cases above with
    | nil => simp [mentions_insert, Ne.symm h.1]
    | cons m above =>
      simp only [List.cons_append, List.isChain_cons_cons] at ih ⊢
      rw [mentions_insert, if_neg (Ne.symm h.1), ih h.2]

/-- After a template is registered, chains stay short exactly if those that lead to it and those
that begin with it are short together. -/
lemma shallow_insert_iff {r : Registered} (h : ∀ n, s.Shallow n) :
    (∀ n, Shallow (KeyMap.insert name r s) n) ↔
      ∀ above below, List.IsChain (Mentions (KeyMap.insert name r s)) (above ++ name :: below) →
        above.length + below.length ≤ maxDepth := by
  constructor
  · intro hshallow above below hchain
    cases above with
    | nil => simpa using hshallow name below hchain
    | cons n above =>
      have hle : (above ++ name :: below).length ≤ maxDepth := hshallow n _ hchain
      rw [List.length_append, List.length_cons] at hle
      rw [List.length_cons]
      omega
  · intro hthrough n ms hchain
    by_cases hmem : name ∈ n :: ms
    · obtain ⟨above, below, heq⟩ := List.append_of_mem hmem
      rw [heq] at hchain
      have hle := hthrough above below hchain
      have hlength := congrArg List.length heq
      rw [List.length_cons, List.length_append, List.length_cons] at hlength
      omega
    · refine h n ms (hchain.imp_of_mem_imp fun a b ha _ hab => ?_)
      rw [mentions_insert, if_neg] at hab
      · exact hab
      · rintro rfl
        exact hmem ha

/-- There is room for a template in a store: no chain that leads to it is too long together with
one that begins with a mention of it. -/
def HasRoom (s : Store) (name text : String) : Prop :=
  ∀ above m below, List.IsChain s.Mentions (above ++ [name]) → m ∈ namesIn text →
    List.IsChain s.Mentions (m :: below) → above.length + 1 + below.length ≤ maxDepth

/-- A template that is registered leaves chains short exactly if there is room for it. -/
lemma shallow_register_iff {text : String} {s' : Store} (h : ∀ n, s.Shallow n)
    (hregister : s.register name text = .ok s') :
    (∀ n, s'.Shallow n) ↔ s.HasRoom name text := by
  obtain ⟨nodes, -, rfl, hshallow⟩ := register_eq_ok.mp hregister
  have hmentioned := checkAll_eq_ok.mp (checkAll_iff_shallow.mpr hshallow)
  rw [shallow_insert_iff h]
  constructor
  · intro hthrough above m below habove hm hbelow
    have hname : name ∉ above := fun hmem =>
      (h name).not_transGen (transGen_of_isChain habove hmem)
    have hchain : List.IsChain (Mentions (KeyMap.insert name ⟨nodes, namesIn text⟩ s))
        (above ++ name :: m :: below) := by
      refine List.isChain_append_cons_cons.mpr ⟨?_, ?_, ?_⟩
      · exact (isChain_concat_insert_iff hname).mpr habove
      · rwa [mentions_insert, if_pos rfl]
      · exact (isChain_insert_iff (hmentioned m hm).2).mpr hbelow
    have hle := hthrough above (m :: below) hchain
    rw [List.length_cons] at hle
    omega
  · intro hroom above below hchain
    obtain ⟨habove, hbelow⟩ := List.isChain_split.mp hchain
    have hname : name ∉ above := fun hmem =>
      hshallow.not_transGen (transGen_of_isChain habove hmem)
    rw [isChain_concat_insert_iff hname] at habove
    cases hbelow with
    | singleton =>
      cases above with
      | nil => simp
      | cons n above => simpa using h n _ habove
    | @cons_cons _ m below hm hbelow =>
      rw [mentions_insert, if_pos rfl] at hm
      rw [isChain_insert_iff (hmentioned m hm).2] at hbelow
      have hle := hroom above m below habove hm hbelow
      rw [List.length_cons]
      omega

lemma shallow_empty (n : String) : Shallow [] n := by
  intro ms hchain
  cases hchain with
  | singleton => simp
  | cons_cons hm => exact absurd hm List.not_mem_nil

lemma Shallow.unregister {n : String} (h : s.Shallow n) (name : String) :
    (s.unregister name).Shallow n := by
  intro ms hchain
  exact h ms (hchain.imp fun _ _ => Mentions.of_unregister)

/-- A change leaves chains short if there is room for the template that it registers, if any. -/
lemma shallow_run (h : ∀ n, s.Shallow n) {op : Operation}
    (hroom : ∀ name text s', op = .register name text → s.register name text = .ok s' →
      s.HasRoom name text) (n : String) : (op.run s).Shallow n := by
  cases op with
  | unregister name => exact (h n).unregister name
  | register name text =>
    cases hregister : s.register name text with
    | error err =>
      rw [Operation.run_register_of_error hregister]
      exact h n
    | ok s' =>
      rw [Operation.run_register hregister]
      exact (shallow_register_iff h hregister).mpr (hroom name text s' rfl hregister) n

/-- All chains stay short in a run exactly if there is room for each template that is registered. -/
lemma shallow_runAll_iff (h : ∀ n, s.Shallow n) (ops : List Operation) :
    (∀ before after, ops = before ++ after → ∀ n, (s.runAll before).Shallow n) ↔
      ∀ before name text after s', ops = before ++ .register name text :: after →
        (s.runAll before).register name text = .ok s' →
          (s.runAll before).HasRoom name text := by
  constructor
  · intro hshallow before name text after s' hops hregister
    refine (shallow_register_iff (hshallow before _ hops) hregister).mp fun n => ?_
    have hrun : s.runAll (before ++ [.register name text]) = s' :=
      runAll_append_register hregister []
    rw [← hrun]
    exact hshallow (before ++ [.register name text]) after (by simp [hops]) n
  · intro hroom before
    induction before using List.reverseRecOn with
    | nil => exact fun _ _ => h
    | append_singleton before op ih =>
      intro after hops n
      rw [List.append_assoc, List.singleton_append] at hops
      rw [runAll, List.foldl_append, List.foldl_cons, List.foldl_nil]
      refine shallow_run (ih (op :: after) hops) (fun name text s' hop hregister => ?_) n
      subst hop
      exact hroom before name text after s' hops hregister

/-! ### Registering what is mentioned first -/

/-- No template is mentioned by others already when it is registered. -/
def BottomUp : Store → List Operation → Prop
  | _, [] => True
  | s, .register name text :: ops =>
    (∀ n, ¬ s.Mentions n name) ∧ BottomUp ((Operation.register name text).run s) ops
  | s, .unregister name :: ops => BottomUp (s.unregister name) ops

/-- There is room for a template that is not mentioned yet. -/
lemma hasRoom_of_not_mentions {text : String} {s' : Store} (hname : ∀ n, ¬ s.Mentions n name)
    (hregister : s.register name text = .ok s') : s.HasRoom name text := by
  obtain ⟨nodes, -, rfl, hshallow⟩ := register_eq_ok.mp hregister
  intro above m below habove hm hbelow
  rcases above.eq_nil_or_concat with rfl | ⟨before, last, rfl⟩
  · have hlt := (checkAll_eq_ok.mp (checkAll_iff_shallow.mpr hshallow) m hm).1 below hbelow
    rw [List.length_nil]
    omega
  · -- The last template above would mention the new one.
    rw [List.concat_eq_append, List.append_assoc, List.singleton_append] at habove
    exact absurd (List.isChain_append_cons_cons.mp habove).2.1 (hname last)

/-- Where templates are registered after those they mention, all chains stay short. -/
lemma shallow_runAll (ops : List Operation) (hops : BottomUp s ops) (h : ∀ n, s.Shallow n)
    (n : String) : (s.runAll ops).Shallow n := by
  induction ops generalizing s with
  | nil => exact h n
  | cons op ops ih =>
    cases op with
    | unregister name => exact ih hops fun n => (h n).unregister name
    | register name text =>
      refine ih hops.2 (shallow_run h fun name' text' s' hop hregister => ?_)
      cases hop
      exact hasRoom_of_not_mentions hops.1 hregister

/-! ### Later registrations -/

/-- What a template mentions it mentioned before, unless it was registered again. -/
lemma mentions_of_runAll {ops : List Operation} {n m : String}
    (hops : ∀ text, Operation.register n text ∉ ops) (h : (s.runAll ops).Mentions n m) :
    s.Mentions n m := by
  induction ops generalizing s with
  | nil => exact h
  | cons op ops ih =>
    have hrun : (op.run s).Mentions n m := ih (fun text hmem => hops text (.tail _ hmem)) h
    rcases op.run_cases s with hsame | ⟨name, text, nodes, rfl, hs, -⟩ | ⟨name, -, hs⟩
    · rwa [hsame] at hrun
    · have hne : n ≠ name := by
        rintro rfl
        exact hops text List.mem_cons_self
      rwa [hs, mentions_insert, if_neg hne] at hrun
    · rw [hs] at hrun
      exact hrun.of_unregister

/-- A chain that leads through no template that was registered later than its first one is
short. -/
lemma length_le_of_registered {text : String} {s' : Store} (h : s.register name text = .ok s')
    {ops : List Operation} {ms : List String}
    (hchain : List.IsChain (fun n m => (s'.runAll ops).Mentions n m ∧
      ∀ text, Operation.register n text ∉ ops) (name :: ms)) : ms.length ≤ maxDepth := by
  obtain ⟨nodes, -, -, hshallow⟩ := register_eq_ok.mp h
  exact hshallow ms (hchain.imp fun n m hnm => mentions_of_runAll hnm.2 hnm.1)

/-! ### Registering what is mentioned last -/

/-- Register templates each of which inserts the next one. -/
def topDown : List String → List Operation
  | n :: m :: ms => .register n (insertionOf m) :: topDown (m :: ms)
  | _ => []

/-- A template that inserts one that mentions nothing is registered. -/
lemma register_insertionOf {n m : String} (hm : IsMentionName m) (hne : m ≠ n)
    (hnone : s.references m = []) : ∃ nodes,
      s.register n (insertionOf m) = .ok (KeyMap.insert n ⟨nodes, [m]⟩ s) := by
  refine ⟨_, register_eq_ok.mpr ⟨_, parse_insertionOf hm, by rw [namesIn_insertionOf hm], ?_⟩⟩
  intro ms hchain
  match hchain with
  | .singleton _ => simp
  | .cons_cons _ (.singleton _) => simp [maxDepth]
  | .cons_cons hnm (.cons_cons hmk _) =>
    rw [mentions_insert, if_pos rfl, List.mem_singleton] at hnm
    rw [hnm, mentions_insert, if_neg hne, Mentions, hnone] at hmk
    cases hmk

/-- Registering templates before those they insert makes chains of any length. -/
lemma exists_topDown {n : String} {ms : List String} (hnodup : (n :: ms).Nodup)
    (hnames : ∀ m ∈ n :: ms, IsMentionName m) (hnone : ∀ m ∈ n :: ms, s.references m = []) :
    ∃ s', (topDown (n :: ms)).foldlM Operation.attempt s = .ok s' ∧
      List.IsChain s'.Mentions (n :: ms) ∧ ∀ k ∉ n :: ms, s'.references k = s.references k := by
  induction ms generalizing n s with
  | nil => exact ⟨s, rfl, .singleton n, fun _ _ => rfl⟩
  | cons m ms ih =>
    obtain ⟨hn, hnodup⟩ := List.nodup_cons.mp hnodup
    obtain ⟨-, hnames⟩ := List.forall_mem_cons.mp hnames
    obtain ⟨-, hnone⟩ := List.forall_mem_cons.mp hnone
    have hne : m ≠ n := by
      rintro rfl
      exact hn List.mem_cons_self
    obtain ⟨nodes, hregister⟩ := register_insertionOf (hnames m List.mem_cons_self) hne
      (hnone m List.mem_cons_self)
    have hnone' : ∀ k ∈ m :: ms, references (KeyMap.insert n ⟨nodes, [m]⟩ s) k = [] := by
      intro k hk
      rw [references_insert, if_neg]
      · exact hnone k hk
      · rintro rfl
        exact hn hk
    obtain ⟨s', hattempt, hchain, hrest⟩ := ih hnodup hnames hnone'
    refine ⟨s', ?_, .cons_cons ?_ hchain, fun k hk => ?_⟩
    · rw [topDown, List.foldlM_cons, Operation.attempt_register, hregister]
      exact hattempt
    · rw [Mentions, hrest n hn, references_insert, if_pos rfl]
      exact List.mem_singleton_self m
    · rw [List.mem_cons, not_or] at hk
      rw [hrest k hk.2, references_insert, if_neg hk.1]

/-- Names that can be mentioned, as many as are wanted. -/
lemma exists_mentionNames (k : Nat) : ∃ names : List String, names.length = k ∧ names.Nodup ∧
    ∀ name ∈ names, IsMentionName name := by
  refine ⟨(List.range k).map fun i => String.ofList (List.replicate (i + 1) 'a'), by simp, ?_, ?_⟩
  · refine List.Nodup.map (fun i j hij => ?_) List.nodup_range
    have hlength := congrArg (fun s : String => s.toList.length) hij
    simpa using hlength
  · intro name hname
    obtain ⟨i, -, rfl⟩ := List.mem_map.mp hname
    constructor
    · simp
    · intro c hc
      rw [String.toList_ofList] at hc
      rw [List.eq_of_mem_replicate hc]
      decide

/-- Templates that were all registered may make chains of any length. -/
lemma exists_long_chain (k : Nat) : ∃ (ops : List Operation) (s : Store) (n : String)
    (ms : List String), ops.foldlM Operation.attempt [] = .ok s ∧
    s.contains n = true ∧ List.IsChain s.Mentions (n :: ms) ∧ k < ms.length := by
  obtain ⟨names, hlength, hnodup, hnames⟩ := exists_mentionNames (k + 2)
  match names, hlength with
  | n :: m :: ms, hlength =>
    obtain ⟨s, hattempt, hchain, -⟩ := exists_topDown (s := []) hnodup hnames fun _ _ => rfl
    refine ⟨_, s, n, m :: ms, hattempt, ?_, hchain, ?_⟩
    · have hnm : m ∈ s.references n := (List.isChain_cons_cons.mp hchain).1
      unfold references at hnm
      rw [contains, KeyMap.has]
      cases hget : KeyMap.get? n s with
      | none =>
        rw [hget] at hnm
        cases hnm
      | some r => rfl
    · simp only [List.length_cons] at hlength ⊢
      omega

/-- All chains of mentions stay short in a run exactly if, for each template that is registered, no
chain that leads to it is too long together with one that begins with it; a registration checks the
latter alone. So chains stay short where templates are registered after those they mention, and a
chain that is too long leads through a template that was registered later than its first one. -/
theorem nesting_bounded_iff (ops : List Operation) :
    ((∀ before after, ops = before ++ after → ∀ n, (runAll [] before).Shallow n) ↔
      ∀ before name text after s', ops = before ++ .register name text :: after →
        (runAll [] before).register name text = .ok s' →
          (runAll [] before).HasRoom name text) ∧
    (BottomUp [] ops → ∀ n, (runAll [] ops).Shallow n) ∧
    ∀ before name text after s', ops = before ++ .register name text :: after →
      (runAll [] before).register name text = .ok s' →
      ∀ ms, List.IsChain (fun n m => (runAll [] ops).Mentions n m ∧
        ∀ text, Operation.register n text ∉ after) (name :: ms) → ms.length ≤ maxDepth := by
  refine ⟨shallow_runAll_iff shallow_empty ops, fun hops => shallow_runAll ops hops shallow_empty,
    fun before name text after s' hops hregister ms hchain => ?_⟩
  rw [hops, runAll_append_register hregister] at hchain
  exact length_le_of_registered hregister hchain

/-- A template that inserts one that was registered before it. -/
theorem nesting_bounded_pair :
    ∀ n, (runAll [] [.register "b" "x", .register "a" "\x7b\x7b> b\x7d\x7d"]).Shallow n := by
  obtain ⟨-, hbottomUp, -⟩ :=
    nesting_bounded_iff [.register "b" "x", .register "a" "\x7b\x7b> b\x7d\x7d"]
  refine hbottomUp ⟨?_, ?_, trivial⟩
  · intro n hn
    cases hn
  · intro n hn
    have hstore : (Operation.register "b" "x").run [] = [("b", ⟨[.text "x"], []⟩)] := by
      rfl
    rw [Mentions, references, hstore, KeyMap.get?, KeyMap.get?] at hn
    split_ifs at hn
    · cases hn
    · cases hn

/-- Templates that were all registered make a chain that is too long. -/
theorem exists_chain_beyond_maxDepth : ∃ (ops : List Operation) (s : Store) (n : String)
    (ms : List String), ops.foldlM Operation.attempt [] = .ok s ∧ s.contains n = true ∧
      List.IsChain s.Mentions (n :: ms) ∧ maxDepth < ms.length :=
  exists_long_chain maxDepth

end Template.Store

end QueryLoom

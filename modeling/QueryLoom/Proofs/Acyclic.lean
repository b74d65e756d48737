import QueryLoom.Proofs.Mentions

/-!
# Stores without cycles

A store that is made by registering and removing templates has no cycle of mentions, in whichever
order that happens: a registration that would close one is refused. The search for such a cycle,
which keeps the mentions that wait to be looked at on a stack, always comes to an end.
-/

namespace QueryLoom

open Relation (TransGen ReflTransGen)

namespace Template.Store

variable {s : Store} {name : String}

/-! ### Cycles -/

/-- No name leads back to itself. -/
def Acyclic (s : Store) : Prop := ∀ n, ¬ TransGen s.Mentions n n

lemma acyclic_empty : Acyclic [] := by
  intro n h
  obtain ⟨m, hm, -⟩ := TransGen.head'_iff.mp h
  exact absurd hm List.not_mem_nil

/-- What a new template leads to either was led to before, or the way leads through it. -/
lemma transGen_insert {r : Registered} {a b : String}
    (h : TransGen (Mentions (KeyMap.insert name r s)) a b) :
    TransGen s.Mentions a b ∨ (ReflTransGen (Mentions (KeyMap.insert name r s)) a name ∧
      TransGen (Mentions (KeyMap.insert name r s)) name b) := by
  induction h using TransGen.head_induction_on with
  | @single a hab =>
    by_cases ha : a = name
    · subst ha
      exact .inr ⟨.refl, .single hab⟩
    · rw [mentions_insert, if_neg ha] at hab
      exact .inl (.single hab)
  | @head a c hac hcb ih =>
    by_cases ha : a = name
    · subst ha
      exact .inr ⟨.refl, .head hac hcb⟩
    · rcases ih with hold | ⟨hto, hfrom⟩
      · rw [mentions_insert, if_neg ha] at hac
        exact .inl (.head hac hold)
      · exact .inr ⟨.head hac hto, hfrom⟩

lemma Acyclic.insert (h : s.Acyclic) {r : Registered}
    (hshallow : Shallow (KeyMap.insert name r s) name) : Acyclic (KeyMap.insert name r s) := by
  intro n hcycle
  rcases transGen_insert hcycle with hold | ⟨hto, hfrom⟩
  · exact h n hold
  · exact hshallow.not_transGen (hfrom.trans_left hto)

lemma Acyclic.unregister (h : s.Acyclic) (name : String) : (s.unregister name).Acyclic :=
  fun n hcycle => h n (TransGen.mono (fun _ _ => Mentions.of_unregister) n n hcycle)

/-- No change closes a cycle. -/
lemma Acyclic.run (h : s.Acyclic) (op : Operation) : (op.run s).Acyclic := by
  rcases op.run_cases s with hsame | ⟨name, text, nodes, -, hs, hshallow⟩ | ⟨name, -, hs⟩
  · rwa [hsame]
  · rw [hs] at hshallow ⊢
    exact h.insert hshallow
  · rw [hs]
    exact h.unregister name

lemma Acyclic.runAll (h : s.Acyclic) (ops : List Operation) : (s.runAll ops).Acyclic := by
  induction ops generalizing s with
  | nil => exact h
  | cons op ops ih => exact ih (h.run op)

/-! ### The search -/

/-- Names that wait to be looked at, the last one first, with the number of steps to them. -/
def waiting (names : List String) (depth : Nat) : List (String × Nat) :=
  names.reverse.map fun m => (m, depth)

/-- A search among the names that wait comes to an end with a result. Each round takes the name on
top and puts what that mentions in its place. -/
inductive Search (s : Store) (name : String) : List (String × Nat) → Except ParseFault Unit → Prop
  | done : Search s name [] (.ok ())
  | self (depth : Nat) (rest : List (String × Nat)) :
      Search s name ((name, depth) :: rest) (.error (.includesItself name))
  | deep {m : String} {depth : Nat} (hne : m ≠ name) (hdepth : maxDepth < depth)
      (rest : List (String × Nat)) :
      Search s name ((m, depth) :: rest) (.error (.nestsTooDeep name maxDepth))
  | next {m : String} {depth : Nat} {rest : List (String × Nat)} {result : Except ParseFault Unit}
      (hne : m ≠ name) (hdepth : depth ≤ maxDepth)
      (h : Search s name (waiting (s.references m) (depth + 1) ++ rest) result) :
      Search s name ((m, depth) :: rest) result

/-- A check ends the search with its fault; if there is none, the search goes on. -/
def EndsWith (check : Except ParseFault Unit) (goesOn : Prop) (result : Except ParseFault Unit) :
    Prop :=
  match check with
  | .ok _ => goesOn
  | .error fault => result = .error fault

/-- Names are looked at one after the other. -/
lemma search_append {check : String → Except ParseFault Unit} {names : List String} {depth : Nat}
    (h : ∀ m rest result, Search s name ((m, depth) :: rest) result ↔
      EndsWith (check m) (Search s name rest result) result)
    (rest : List (String × Nat)) (result : Except ParseFault Unit) :
    Search s name (names.map (fun m => (m, depth)) ++ rest) result ↔
      EndsWith (names.forM check) (Search s name rest result) result := by
  rw [List.forM_eq_forM]
  induction names with
  | nil => rfl
  | cons m names ih =>
    rw [List.map_cons, List.cons_append, h, List.forM_cons]
    cases check m with
    | error fault => rfl
    | ok => exact ih

lemma search_self_iff {depth : Nat} {rest : List (String × Nat)} {result : Except ParseFault Unit} :
    Search s name ((name, depth) :: rest) result ↔ result = .error (.includesItself name) := by
  constructor
  · intro h
    cases h with
    | self => rfl
    | deep hne => exact absurd rfl hne
    | next hne => exact absurd rfl hne
  · rintro rfl
    exact .self depth rest

/-- The search below a name is the check of the name. -/
lemma search_cons {room depth : Nat} (hroom : depth + room = maxDepth + 1) (m : String)
    (rest : List (String × Nat)) (result : Except ParseFault Unit) :
    Search s name ((m, depth) :: rest) result ↔
      EndsWith (s.checkMention name room m) (Search s name rest result) result := by
  induction room generalizing m depth rest result with
  | zero =>
    rw [checkMention, EndsWith]
    split_ifs with hself
    · subst hself
      exact search_self_iff
    · constructor
      · intro h
        cases h with
        | self => exact absurd rfl hself
        | deep => rfl
        | next _ hdepth => omega
      · rintro rfl
        exact .deep hself (by omega) rest
  | succ room ih =>
    rw [checkMention]
    split_ifs with hself
    · subst hself
      exact search_self_iff
    · rw [← search_append fun m rest result => @ih (depth + 1) (by omega) m rest result]
      constructor
      · intro h
        cases h with
        | self => exact absurd rfl hself
        | deep _ hdepth => omega
        | next _ _ h => exact h
      · exact .next hself (by omega)

/-- The search for a cycle comes to an end, with the result of the check. -/
lemma search_iff {names : List String} {result : Except ParseFault Unit} :
    Search s name (waiting names 1) result ↔ result = s.checkAll name names := by
  have hsearch := @search_append s name (s.checkMention name maxDepth) names.reverse 1
    (fun m rest result => search_cons (by omega) m rest result) [] result
  rw [List.append_nil] at hsearch
  rw [waiting, hsearch, checkAll]
  cases names.reverse.forM (s.checkMention name maxDepth) with
  | error fault => rfl
  | ok =>
    constructor
    · intro h
      cases h
      rfl
    · rintro rfl
      exact .done

/-- However templates were registered and removed, none mentions itself, directly or through
others. A registration that would change that is refused; a refused one changes no mentions; and
the search that decides it comes to an end. -/
theorem acyclic_runAll (ops : List Operation) :
    (runAll [] ops).Acyclic ∧
    (∀ name text, TransGen ((runAll [] ops).mentioning name (namesIn text)).Mentions name name →
      ∃ err, (runAll [] ops).register name text = .error err) ∧
    (∀ name text err, (runAll [] ops).register name text = .error err →
      ((runAll [] ops).runAll [.register name text]).references = (runAll [] ops).references) ∧
    (∀ name text result, Search (runAll [] ops) name (waiting (namesIn text) 1) result ↔
      result = (runAll [] ops).checkAll name (namesIn text)) := by
  refine ⟨acyclic_empty.runAll ops, fun name text hcycle => ?_, fun name text err h => ?_,
    fun name text result => search_iff⟩
  · cases hregister : (runAll [] ops).register name text with
    | error err => exact ⟨err, rfl⟩
    | ok s' =>
      obtain ⟨nodes, -, rfl, hshallow⟩ := register_eq_ok.mp hregister
      have hshallow' : Shallow ((runAll [] ops).mentioning name (namesIn text)) name :=
        checkAll_iff_shallow.mp (checkAll_iff_shallow.mpr hshallow)
      exact absurd hcycle hshallow'.not_transGen
  · rw [runAll, List.foldl_cons, List.foldl_nil, Operation.run_register_of_error h]

/-- Of two templates that would mention each other, the second one is refused. -/
theorem acyclic_runAll_pair :
    ¬ TransGen (runAll [] [.register "a" "\x7b\x7b> b\x7d\x7d"]).Mentions "a" "a" ∧
    (∃ err, (runAll [] [.register "a" "\x7b\x7b> b\x7d\x7d"]).register "b" "\x7b\x7b> a\x7d\x7d" =
      .error err) ∧
    Search (runAll [] [.register "a" "\x7b\x7b> b\x7d\x7d"]) "b" [("a", 1)]
      (.error (.includesItself "b")) := by
  obtain ⟨hacyclic, hrefused, -, hsearch⟩ :=
    acyclic_runAll [.register "a" "\x7b\x7b> b\x7d\x7d"]
  have hold : (runAll [] [.register "a" "\x7b\x7b> b\x7d\x7d"]).references "a" = ["b"] := by
    decide +kernel
  have hnew : namesIn "\x7b\x7b> a\x7d\x7d" = ["a"] := by
    decide +kernel
  specialize hrefused "b" "\x7b\x7b> a\x7d\x7d"
  specialize hsearch "b" "\x7b\x7b> a\x7d\x7d" (.error (.includesItself "b"))
  rw [hnew] at hrefused hsearch
  refine ⟨hacyclic "a", hrefused ?_, hsearch.mpr ?_⟩
  · have hab : Mentions (runAll [] [.register "a" "\x7b\x7b> b\x7d\x7d"]) "a" "b" := by
      simp [Mentions, hold]
    refine TransGen.head (b := "a") (mentions_insert.mpr ?_) (.single (mentions_insert.mpr ?_))
    · simp
    · simpa using hab
  · simp [checkAll, maxDepth, checkMention, hold, bind, Except.bind]

end Template.Store

end QueryLoom

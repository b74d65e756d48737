import QueryLoom.Proofs.Dml.Reader

/-!
# Pieces of statements that are read back

`ReadsAs` says that a piece of SQL under construction, wherever it ends up in a statement, is read
as a given tree. It composes along the operations that put SQL together.
-/

namespace QueryLoom.Dml

/-- A piece of SQL is read as `a`, wherever it stands in a statement and whatever follows that
would not carry it on. -/
structure ReadsAs {α : Type} (d : Dialect) (r : Reader α) (q : Sql) (a : α) (more : List String) :
    Prop where
  aligned : q.Aligned
  run : ∀ (before after : List Json) (rest : List Char), Ends more rest →
    r ⟨d, before ++ q.params ++ after⟩
        ⟨written d (before.length + 1) q.content ++ rest, before.length⟩
      = some (a, ⟨rest, (before ++ q.params).length⟩)

/-- What follows `q`, and `q` itself, do not carry on an item before `q`. -/
def Follows (d : Dialect) (q : Sql) (after more : List String) : Prop :=
  ∀ (index : Nat) (rest : List Char), Ends after rest →
    Ends more (written d index q.content ++ rest)

variable {α β : Type} {d : Dialect}

lemma aligned_text (s : String) : (Sql.text s).Aligned := rfl

lemma aligned_append {p q : Sql} (hp : p.Aligned) (hq : q.Aligned) : (p ++ q).Aligned :=
  (Sql.pushSql_extends p hq).aligned hp

lemma content_append {p q : Sql} (hp : p.Aligned) (hq : q.Aligned) :
    (p ++ q).content = p.content ++ q.content :=
  (Sql.pushSql_extends p hq).content hp

lemma content_text_append (s : String) (q : Sql) :
    (Sql.text s ++ q).content = Symbol.ofText s ++ q.content := rfl

lemma append_assoc (p q r : Sql) : p ++ q ++ r = p ++ (q ++ r) := by
  change Sql.pushSql (Sql.pushSql p q) r = Sql.pushSql p (Sql.pushSql q r)
  simp [Sql.pushSql]

namespace ReadsAs

lemma mono {r : Reader α} {q : Sql} {a : α} {fewer more : List String}
    (h : ReadsAs d r q a fewer) (hsub : fewer ⊆ more) : ReadsAs d r q a more :=
  ⟨h.aligned, fun before after rest hends => h.run before after rest (hends.mono hsub)⟩

/-- One piece after the other. -/
lemma bind {r : Reader α} {f : α → Reader β} {p q : Sql} {a : α} {b : β} {more after : List String}
    (h : ReadsAs d r p a more) (h' : ReadsAs d (f a) q b after) (hends : Follows d q after more) :
    ReadsAs d (r >>= f) (p ++ q) b after where
  aligned := aligned_append h.aligned h'.aligned
  run before later rest hrest := by
    have hparams : (p ++ q).params = p.params ++ q.params := rfl
    have hp := h.run before (q.params ++ later)
      (written d (before.length + 1 + p.params.length) q.content ++ rest) (hends _ _ hrest)
    have hq := h'.run (before ++ p.params) later rest hrest
    have hindex : (before ++ p.params).length + 1 = before.length + 1 + p.params.length := by
      rw [List.length_append]
      omega
    rw [hindex] at hq
    rw [run_bind, content_append h.aligned h'.aligned, written_append, values_content h.aligned,
      hparams]
    simp only [List.append_assoc] at hp hq ⊢
    rw [hp]
    exact hq

/-- What follows a reader adds nothing but a result. -/
lemma then_pure {r : Reader α} {f : α → Reader β} {q : Sql} {a : α} {b : β} {more : List String}
    (h : ReadsAs d r q a more) (hf : f a = pure b) : ReadsAs d (r >>= f) q b more where
  aligned := h.aligned
  run before after rest hrest := by
    rw [run_bind, h.run before after rest hrest, Option.bind_some, hf]
    rfl

lemma map {r : Reader α} {q : Sql} {a : α} {more : List String} (h : ReadsAs d r q a more)
    (g : α → β) : ReadsAs d (r >>= fun x => pure (g x)) q (g a) more :=
  h.then_pure rfl

/-- How a piece is read depends on its symbols only. -/
lemma congr {r : Reader α} {q q' : Sql} {a : α} {more : List String} (h : ReadsAs d r q a more)
    (haligned : q'.Aligned) (hcontent : q'.content = q.content) : ReadsAs d r q' a more where
  aligned := haligned
  run before after rest hrest := by
    have hparams : q'.params = q.params := by
      rw [haligned.params_eq, hcontent, ← h.aligned.params_eq]
    rw [hparams, hcontent]
    exact h.run before after rest hrest

/-- A text that stands first is read off. -/
lemma exactly {f : Unit → Reader β} {q : Sql} {b : β} {more : List String} (s : String)
    (h : ReadsAs d (f ()) q b more) :
    ReadsAs d (Dml.exactly s >>= f) (Sql.text s ++ q) b more where
  aligned := aligned_append (aligned_text s) h.aligned
  run before after rest hrest := by
    rw [run_bind, content_text_append, written_ofText_append, List.append_assoc s.toList,
      run_exactly]
    exact h.run before after rest hrest

/-- A text that stands last is read off. -/
lemma last (s : String) (more : List String) : ReadsAs d (Dml.exactly s) (Sql.text s) () more where
  aligned := aligned_text s
  run before after rest _ := by
    rw [Sql.content_text, written_ofText, run_exactly]
    simp [Sql.text]

lemma last_pure (s : String) (a : α) (more : List String) :
    ReadsAs d (Dml.exactly s >>= fun _ => pure a) (Sql.text s) a more :=
  (last s more).map fun _ => a

lemma text_append_append {r : Reader α} {s t : String} {q : Sql} {a : α} {more : List String} :
    ReadsAs d r (Sql.text (s ++ t) ++ q) a more
      ↔ ReadsAs d r (Sql.text s ++ (Sql.text t ++ q)) a more := by
  have hcontent : (Sql.text (s ++ t) ++ q).content
      = (Sql.text s ++ (Sql.text t ++ q)).content := by
    simp [content_text_append]
  exact ⟨fun h => h.congr h.aligned hcontent.symm, fun h => h.congr h.aligned hcontent⟩

lemma text_append {r : Reader α} {s t : String} {a : α} {more : List String} :
    ReadsAs d r (Sql.text (s ++ t)) a more ↔ ReadsAs d r (Sql.text s ++ Sql.text t) a more := by
  have hcontent : (Sql.text (s ++ t)).content = (Sql.text s ++ Sql.text t).content := by
    simp [content_text_append]
  exact ⟨fun h => h.congr rfl hcontent.symm, fun h => h.congr rfl hcontent⟩

end ReadsAs

/-! ### Keywords that decide -/

/-- The piece begins with the text. -/
def BeginsWith (s : String) (q : Sql) : Prop := ∃ w, q.content = Symbol.ofText s ++ w

lemma beginsWith_text (s : String) : BeginsWith s (Sql.text s) := ⟨[], by simp⟩

lemma beginsWith_text_append (s : String) (q : Sql) : BeginsWith s (Sql.text s ++ q) :=
  ⟨q.content, content_text_append s q⟩

lemma BeginsWith.text_append {t : String} {q : Sql} (h : BeginsWith t q) (s : String) :
    BeginsWith (s ++ t) (Sql.text s ++ q) := by
  obtain ⟨w, hw⟩ := h
  exact ⟨w, by simp [content_text_append, hw]⟩

lemma BeginsWith.isPrefixOf {s : String} {q : Sql} (h : BeginsWith s q) (d : Dialect) (index : Nat)
    (rest : List Char) : s.toList.isPrefixOf (written d index q.content ++ rest) = true := by
  obtain ⟨w, hw⟩ := h
  rw [hw, written_ofText_append, List.append_assoc]
  exact List.isPrefixOf_iff_prefix.mpr (List.prefix_append _ _)

lemma BeginsWith.not_isPrefixOf {s t : String} {q : Sql} (h : BeginsWith t q)
    (hdiffer : differ s.toList t.toList = true) (d : Dialect) (index : Nat) (rest : List Char) :
    s.toList.isPrefixOf (written d index q.content ++ rest) = false := by
  obtain ⟨w, hw⟩ := h
  rw [hw, written_ofText_append, List.append_assoc]
  exact not_isPrefixOf_of_differ hdiffer _

lemma BeginsWith.follows {s : String} {q : Sql} (h : BeginsWith s q) {after more : List String}
    (hclears : clears more s = true) : Follows d q after more := by
  intro index rest _
  obtain ⟨w, hw⟩ := h
  rw [hw, written_ofText_append, List.append_assoc]
  exact ends_append_of_clears hclears _

namespace ReadsAs

lemma ahead_true {f : Bool → Reader α} {s : String} {q : Sql} {a : α} {more : List String}
    (hs : BeginsWith s q) (h : ReadsAs d (f true) q a more) :
    ReadsAs d (Dml.ahead s >>= f) q a more where
  aligned := h.aligned
  run before after rest hrest := by
    rw [run_bind, Dml.ahead, hs.isPrefixOf]
    exact h.run before after rest hrest

lemma ahead_false {f : Bool → Reader α} {s : String} {q : Sql} {a : α} {more : List String}
    (hs : ∀ index rest, Ends more rest →
      s.toList.isPrefixOf (written d index q.content ++ rest) = false)
    (h : ReadsAs d (f false) q a more) : ReadsAs d (Dml.ahead s >>= f) q a more where
  aligned := h.aligned
  run before after rest hrest := by
    rw [run_bind, Dml.ahead, hs _ _ hrest]
    exact h.run before after rest hrest

lemma choose_this {s : String} {r other : Reader α} {options : List (String × Reader α)} {q : Sql}
    {a : α} {more : List String} (hs : BeginsWith s q)
    (h : ReadsAs d (Dml.exactly s >>= fun _ => r) q a more) :
    ReadsAs d (choose ((s, r) :: options) other) q a more :=
  ahead_true hs h

lemma choose_other {s : String} {r other : Reader α} {options : List (String × Reader α)} {q : Sql}
    {a : α} {more : List String}
    (hs : ∀ index rest, Ends more rest →
      s.toList.isPrefixOf (written d index q.content ++ rest) = false)
    (h : ReadsAs d (choose options other) q a more) :
    ReadsAs d (choose ((s, r) :: options) other) q a more :=
  ahead_false hs h

/-- A keyword that differs from the one that stands there is passed over. -/
lemma choose_next {s : String} (t : String) {r other : Reader α}
    {options : List (String × Reader α)} {q : Sql} {a : α} {more : List String}
    (ht : BeginsWith t q) (hdiffer : differ s.toList t.toList = true)
    (h : ReadsAs d (choose options other) q a more) :
    ReadsAs d (choose ((s, r) :: options) other) q a more :=
  choose_other (fun index rest _ => ht.not_isPrefixOf hdiffer d index rest) h

end ReadsAs

/-! ### Identifiers and placeholders -/

namespace ReadsAs

lemma part {p : IdentPart} (hp : Legible p) : ReadsAs d Dml.part (Sql.text (p.toSql d)) p [] where
  aligned := aligned_text _
  run before after rest hrest := by
    rw [Sql.content_text, written_ofText, run_part hp hrest]
    simp [Sql.text]

lemma placeholder (v : Json) : ReadsAs d Dml.placeholder (Sql.bind v) v [] where
  aligned := rfl
  run before after rest hrest := by
    have hread := referred?_placeholder d before after v hrest
    simp [Dml.placeholder, Sql.bind, Sql.pushBind, Sql.empty, Sql.content, Sql.contentOf, written,
      hread]

end ReadsAs

/-! ### Lists -/

lemma aligned_concat {qs : List Sql} (h : ∀ q ∈ qs, q.Aligned) : (Sql.concat qs).Aligned := by
  induction qs with
  | nil => rfl
  | cons q qs ih =>
    exact aligned_append (h q List.mem_cons_self) (ih fun q hq => h q (List.mem_cons_of_mem _ hq))

/-- As many characters as items that follow a separator. -/
lemma length_le_written_concat {β : Type} {sep : String} (hsep : sep.toList ≠ []) {f : β → Sql}
    {xs : List β} (h : ∀ x ∈ xs, (f x).Aligned) (d : Dialect) (index : Nat) :
    xs.length ≤ (written d index
      (Sql.concat (xs.map fun x => Sql.text sep ++ f x)).content).length := by
  induction xs generalizing index with
  | nil => simp
  | cons x xs ih =>
    have hx : (Sql.text sep ++ f x).Aligned :=
      aligned_append (aligned_text sep) (h x List.mem_cons_self)
    have hxs : ∀ y ∈ xs, (f y).Aligned := fun y hy => h y (List.mem_cons_of_mem _ hy)
    have hrest : (Sql.concat (xs.map fun x => Sql.text sep ++ f x)).Aligned :=
      aligned_concat (by
        intro q hq
        obtain ⟨y, hy, rfl⟩ := List.mem_map.mp hq
        exact aligned_append (aligned_text sep) (hxs y hy))
    have hpositive : 1 ≤ sep.toList.length := List.length_pos_iff.mpr hsep
    simp only [List.map_cons, Sql.concat, List.length_cons]
    rw [content_append hx hrest, written_append, content_text_append, written_ofText_append]
    have hle := ih hxs (index + (values (Symbol.ofText sep ++ (f x).content)).length)
    simp only [List.length_append] at hle ⊢
    omega

lemma append_empty (q : Sql) : q ++ Sql.empty = q := by
  change Sql.pushSql q Sql.empty = q
  simp [Sql.pushSql, Sql.empty]

namespace ReadsAs

/-- A reader that finds nothing more of its piece after the first item. -/
lemma bind_end {r : Reader α} {f : α → Reader β} {q : Sql} {a : α} {b : β}
    {more after : List String} (h : ReadsAs d r q a more)
    (h' : ReadsAs d (f a) Sql.empty b after) (hsub : more ⊆ after) :
    ReadsAs d (r >>= f) q b after := by
  rw [← append_empty q]
  exact h.bind h' fun index rest hends => hends.mono hsub

lemma pure_empty (a : α) {more : List String} :
    ReadsAs d (pure a : Reader α) Sql.empty a more where
  aligned := rfl
  run before after rest _ := by
    simp [Sql.empty, Sql.content, Sql.contentOf, written]
    rfl

lemma manyWithin {γ : Type} {r : Reader α} {f : γ → Sql} {g : γ → α} {more : List String}
    {sep : String} (hsep : clears more sep = true) {xs : List γ}
    (h : ∀ x ∈ xs, ReadsAs d r (f x) (g x) more) {budget : Nat} (hbudget : xs.length ≤ budget) :
    ReadsAs d (Dml.manyWithin sep r budget) (Sql.concat (xs.map fun x => Sql.text sep ++ f x))
      (xs.map g) (sep :: more) := by
  induction xs generalizing budget with
  | nil =>
    cases budget with
    | zero => exact pure_empty []
    | succ budget =>
      simp only [List.map_nil, Sql.concat]
      refine choose_other (fun index rest hrest => ?_) (pure_empty [])
      exact hrest.not_more sep List.mem_cons_self
  | cons x xs ih =>
    cases budget with
    | zero => simp at hbudget
    | succ budget =>
      have hrest := ih (fun y hy => h y (List.mem_cons_of_mem _ hy))
        (Nat.le_of_succ_le_succ hbudget)
      have hfollows : Follows d (Sql.concat (xs.map fun x => Sql.text sep ++ f x)) (sep :: more)
          more := by
        cases xs with
        | nil =>
          intro index rest hends
          exact hends.mono (List.subset_cons_self sep more)
        | cons y ys =>
          rw [List.map_cons, Sql.concat, append_assoc]
          exact (beginsWith_text_append sep _).follows hsep
      rw [List.map_cons, Sql.concat, append_assoc]
      refine choose_this (beginsWith_text_append sep _) (exactly sep ?_)
      exact (h x List.mem_cons_self).bind (hrest.map fun ys => g x :: ys) hfollows

/-- Items each of which stands behind the separator. -/
lemma many {γ : Type} {r : Reader α} {f : γ → Sql} {g : γ → α} {more : List String} {sep : String}
    (hsep : clears more sep = true) {xs : List γ}
    (h : ∀ x ∈ xs, ReadsAs d r (f x) (g x) more) :
    ReadsAs d (Dml.many sep r) (Sql.concat (xs.map fun x => Sql.text sep ++ f x)) (xs.map g)
      (sep :: more) where
  aligned := (manyWithin hsep h le_rfl).aligned
  run before after rest hrest := by
    have hne : sep.toList ≠ [] := by
      intro hnil
      simp [clears, hnil] at hsep
    have hlength := length_le_written_concat hne (fun x hx => (h x hx).aligned) d
      (before.length + 1)
    refine (manyWithin hsep h ?_).run before after rest hrest
    simp only [List.length_append]
    omega

end ReadsAs

lemma joined_extends (sep : String) {qs : List Sql} (h : ∀ q ∈ qs, q.Aligned) :
    Sql.Extends Sql.empty ((Symbol.ofText sep).intercalate (qs.map Sql.content))
      (Sql.joined sep qs) :=
  Sql.pushJoined_extends qs sep (fun q hq q' => Sql.pushSql_extends q' (h q hq)) Sql.empty

@[simp] lemma joined_singleton (sep : String) (q : Sql) : Sql.joined sep [q] = q := rfl

lemma content_concat_separated (sep : String) {qs : List Sql} (h : ∀ q ∈ qs, q.Aligned) :
    (Sql.concat (qs.map fun q => Sql.text sep ++ q)).content
      = qs.flatMap fun q => Symbol.ofText sep ++ q.content := by
  induction qs with
  | nil => rfl
  | cons q qs ih =>
    have hq : (Sql.text sep ++ q).Aligned :=
      aligned_append (aligned_text sep) (h q List.mem_cons_self)
    have hqs : ∀ p ∈ qs, p.Aligned := fun p hp => h p (List.mem_cons_of_mem _ hp)
    have hrest : (Sql.concat (qs.map fun q => Sql.text sep ++ q)).Aligned :=
      aligned_concat (by
        intro p hp
        obtain ⟨p', hp', rfl⟩ := List.mem_map.mp hp
        exact aligned_append (aligned_text sep) (hqs p' hp'))
    rw [List.map_cons, Sql.concat, content_append hq hrest, content_text_append, ih hqs,
      List.flatMap_cons]

namespace ReadsAs

/-- Items with the separator between. -/
lemma separated {γ : Type} {r : Reader α} {f : γ → Sql} {g : γ → α} {more : List String}
    {sep : String} (hsep : clears more sep = true) {xs : List γ} (hne : xs ≠ [])
    (h : ∀ x ∈ xs, ReadsAs d r (f x) (g x) more) :
    ReadsAs d (Dml.separated sep r) (Sql.joined sep (xs.map f)) (xs.map g) (sep :: more) := by
  cases xs with
  | nil => exact absurd rfl hne
  | cons x xs =>
    have hxs : ∀ y ∈ xs, ReadsAs d r (f y) (g y) more := fun y hy => h y (List.mem_cons_of_mem _ hy)
    have haligned : ∀ q ∈ (x :: xs).map f, q.Aligned := by
      intro q hq
      obtain ⟨y, hy, rfl⟩ := List.mem_map.mp hq
      exact (h y hy).aligned
    have hmany := many hsep hxs
    have hfollows : Follows d (Sql.concat (xs.map fun x => Sql.text sep ++ f x)) (sep :: more)
        more := by
      cases xs with
      | nil =>
        intro index rest hends
        exact hends.mono (List.subset_cons_self sep more)
      | cons y ys =>
        rw [List.map_cons, Sql.concat, append_assoc]
        exact (beginsWith_text_append sep _).follows hsep
    have hread : ReadsAs d (Dml.separated sep r)
        (f x ++ Sql.concat (xs.map fun x => Sql.text sep ++ f x)) (g x :: xs.map g) (sep :: more) :=
      (h x List.mem_cons_self).bind (hmany.map fun ys => g x :: ys) hfollows
    refine hread.congr ((joined_extends sep haligned).aligned rfl) ?_
    have hconcat := @content_concat_separated sep (xs.map f)
      fun q hq => haligned q (List.mem_cons_of_mem _ hq)
    rw [List.map_map] at hconcat
    rw [(joined_extends sep haligned).content rfl, content_append (h x List.mem_cons_self).aligned
      hmany.aligned, Sql.content_empty, List.nil_append, List.map_map, Sql.intercalate_cons_eq]
    simpa [Function.comp_def, List.flatMap_map] using hconcat.symm

/-- A text put together from texts with a separator between. -/
lemma separated_text {γ : Type} {r : Reader α} {f : γ → String} {g : γ → α} {more : List String}
    {sep : String} (hsep : clears more sep = true) {xs : List γ} (hne : xs ≠ [])
    (h : ∀ x ∈ xs, ReadsAs d r (Sql.text (f x)) (g x) more) :
    ReadsAs d (Dml.separated sep r) (Sql.text (sep.intercalate (xs.map f))) (xs.map g)
      (sep :: more) := by
  refine (separated hsep hne h).congr (aligned_text _) ?_
  have haligned : ∀ q ∈ xs.map (fun x => Sql.text (f x)), q.Aligned := by
    intro q hq
    obtain ⟨x, -, rfl⟩ := List.mem_map.mp hq
    exact aligned_text _
  rw [(joined_extends sep haligned).content rfl, Sql.content_text, Sql.content_empty,
    List.nil_append]
  cases xs with
  | nil => exact absurd rfl hne
  | cons x xs =>
    simp only [List.map_map]
    rw [Symbol.ofText, String.toList_intercalate, List.map_map, Sql.intercalate_cons_eq,
      Sql.intercalate_cons_eq]
    simp [Symbol.ofText, List.map_flatMap]

/-- A list of values is read as the values. -/
lemma bindList {vs : List Json} (hne : vs ≠ []) :
    ReadsAs d (Dml.separated ", " Dml.placeholder) (Sql.bindList vs) vs [", "] := by
  have hread : ReadsAs d (Dml.separated ", " Dml.placeholder) (Sql.joined ", " (vs.map Sql.bind))
      (vs.map id) [", "] := separated (by decide) hne fun v _ => placeholder v
  rw [List.map_id] at hread
  refine hread.congr ((Sql.pushBindList_extends Sql.empty vs).aligned rfl) ?_
  have haligned : ∀ q ∈ vs.map Sql.bind, q.Aligned := by
    intro q hq
    obtain ⟨v, -, rfl⟩ := List.mem_map.mp hq
    rfl
  rw [(joined_extends ", " haligned).content rfl, Sql.bindList,
    (Sql.pushBindList_extends Sql.empty vs).content rfl]
  cases vs with
  | nil => exact absurd rfl hne
  | cons v vs => simp [Sql.listContent, Function.comp_def, Sql.bind, Sql.pushBind, Sql.empty,
      Sql.content, Sql.contentOf]

end ReadsAs

/-! ### Statements -/

/-- A statement built from a piece that is read as `a` is read as `a`. -/
lemma ReadsAs.readWith {r : Reader α} {q : Sql} {a : α} {more : List String}
    (h : ReadsAs d r q a more) (hmore : ∀ s ∈ more, s.toList ≠ []) :
    Dml.readWith r d (q.build d) = some a := by
  have hrun := h.run [] [] [] (ends_nil hmore)
  simp only [List.nil_append, List.append_nil, List.length_nil, Nat.zero_add] at hrun
  have htext := toList_sql_build h.aligned d
  simp only [Sql.build] at htext
  simp [Dml.readWith, Sql.build, htext, hrun]

end QueryLoom.Dml

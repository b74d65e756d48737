import Mathlib.Tactic.Tauto
import QueryLoom.Proofs.Insertions.Remainders
import QueryLoom.Template.Node

/-!
# Where insertions stand

The insertions of a template come from tags, and each of these stands behind two braces somewhere in
the text of the template.
-/

namespace QueryLoom.Template

namespace Node

/-! ### Insertions -/

mutual

/-- The insertions of a node, at any depth. Those that have content of their own are left out, but
not the ones in that content. -/
def insertions : Node → List Invocation
  | .text _ | .output _ | .foreignUse => []
  | .block _ body none => allInsertions body
  | .block _ body (some alternative) => allInsertions body ++ allInsertions alternative
  | .insertion i none => [i]
  | .insertion _ (some body) | .definition _ body => allInsertions body

/-- The insertions of some nodes. -/
def allInsertions : List Node → List Invocation
  | [] => []
  | n :: ns => n.insertions ++ allInsertions ns

end

lemma mem_allInsertions {ns : List Node} {i : Invocation} :
    i ∈ allInsertions ns ↔ ∃ n ∈ ns, i ∈ n.insertions := by
  induction ns with
  | nil => simp [allInsertions]
  | cons n ns ih => simp [allInsertions, ih]

lemma mem_allInsertions_append {ns ms : List Node} {i : Invocation} :
    i ∈ allInsertions (ns ++ ms) ↔ i ∈ allInsertions ns ∨ i ∈ allInsertions ms := by
  simp only [mem_allInsertions, List.mem_append, or_and_right, exists_or]

lemma mem_allInsertions_reverse {ns : List Node} {i : Invocation} :
    i ∈ allInsertions ns.reverse ↔ i ∈ allInsertions ns := by
  simp only [mem_allInsertions, List.mem_reverse]

/-- The templates that are inserted by name. -/
def insertedNames (ns : List Node) : List String :=
  (allInsertions ns).filterMap fun i => nameOf? i.target

/-! ### Building trees -/

/-- The insertions in the parts of an open block, and before it. -/
def Opened.insertions (o : Opened) : List Invocation :=
  o.parts.flatMap (fun part => allInsertions part.2) ++ allInsertions o.before

/-- The insertions that were read so far. -/
def Building.insertions (b : Building) : List Invocation :=
  allInsertions b.nodes ++ b.opened.flatMap Opened.insertions

lemma mem_blockOf {parts : List (Invocation × List Node)} {alternative : Option (List Node)}
    {i : Invocation} (h : i ∈ allInsertions ((blockOf alternative parts).getD [])) :
    i ∈ allInsertions (alternative.getD []) ∨
      i ∈ parts.flatMap fun part => allInsertions part.2 := by
  induction parts generalizing alternative with
  | nil => exact .inl h
  | cons part parts ih =>
    rw [List.flatMap_cons, List.mem_append]
    rcases ih h with hblock | hparts
    · cases alternative with
      | none => exact .inr (.inl (by simpa [allInsertions, Node.insertions] using hblock))
      | some ns =>
        have hor : i ∈ allInsertions part.2 ∨ i ∈ allInsertions ns := by
          simpa [allInsertions, Node.insertions] using hblock
        exact hor.elim (fun hpart => .inr (.inl hpart)) .inl
    · exact .inr (.inr hparts)

/-- The last part of a block may be one more alternative or the one without a condition. -/
lemma mem_lastPart {parts : List (Invocation × List Node)} {current? : Option Invocation}
    {ns : List Node} {i : Invocation} (h : i ∈ allInsertions (match current? with
      | some head => (blockOf none ((head, ns) :: parts)).getD []
      | none => (blockOf (some ns) parts).getD [])) :
    i ∈ allInsertions ns ∨ i ∈ parts.flatMap fun part => allInsertions part.2 := by
  split at h
  · simpa [allInsertions, or_assoc] using mem_blockOf h
  · exact mem_blockOf h

lemma Opened.mem_close {o : Opened} {ns : List Node} {i : Invocation}
    (h : i ∈ allInsertions (o.close ns)) :
    i ∈ allInsertions ns ∨ i ∈ o.parts.flatMap fun part => allInsertions part.2 := by
  unfold Opened.close at h
  split at h
  · exact mem_lastPart h
  · exact mem_lastPart h
  · exact .inl (by simpa [allInsertions, Node.insertions] using h)
  · exact .inl (by simpa [allInsertions, Node.insertions] using h)

/-- A tag adds no insertion but its own. -/
lemma Building.mem_addTag {b b' : Building} {role : TagRole} (h : b.addTag role = .ok b')
    {i : Invocation} (hi : i ∈ b'.insertions) : i ∈ b.insertions ∨ role = .insertion i := by
  cases role with
  | note =>
    obtain rfl := Except.ok.inj h
    exact .inl hi
  | output i' | foreignUse =>
    obtain rfl := Except.ok.inj h
    exact .inl (by simpa [insertions, push, allInsertions, Node.insertions] using hi)
  | insertion i' =>
    obtain rfl := Except.ok.inj h
    have hor : i = i' ∨ i ∈ b.insertions := by
      simpa [insertions, push, allInsertions, Node.insertions, or_assoc] using hi
    exact hor.elim (fun heq => .inr (by rw [heq])) .inl
  | opening kind head =>
    obtain rfl := Except.ok.inj h
    exact .inl (by simpa [insertions, Opened.insertions, allInsertions] using hi)
  | alternative head? =>
    rw [addTag.eq_def] at h
    dsimp only at h
    split at h
    · next head parts current before outer hopened =>
      obtain rfl := Except.ok.inj h
      refine .inl ?_
      rw [insertions, hopened]
      simp only [insertions, Opened.insertions, List.flatMap_cons, List.mem_append,
        mem_allInsertions_reverse, allInsertions, List.not_mem_nil, false_or] at hi ⊢
      tauto
    · cases h
  | closing verbatim name =>
    rw [addTag.eq_def] at h
    dsimp only at h
    split at h
    · cases h
    · next o outer hopened =>
      split_ifs at h
      obtain rfl := Except.ok.inj h
      refine .inl ?_
      rw [insertions, hopened]
      simp only [insertions, Opened.insertions, List.flatMap_cons, List.mem_append,
        mem_allInsertions_append, mem_allInsertions_reverse] at hi ⊢
      rcases hi with (hclose | hbefore) | houter
      · have hor := Opened.mem_close hclose
        rw [mem_allInsertions_reverse] at hor
        tauto
      · tauto
      · tauto

lemma Building.mem_add {b b' : Building} {piece : Piece} (h : b.add piece = .ok b')
    {i : Invocation} (hi : i ∈ b'.insertions) :
    i ∈ b.insertions ∨ ∃ t alone, piece = .tag t alone ∧ t.role = .insertion i := by
  cases piece with
  | text cs =>
    obtain rfl := Except.ok.inj h
    split_ifs at hi
    · exact .inl hi
    · exact .inl (by simpa [insertions, push, allInsertions, Node.insertions] using hi)
  | tag t alone => exact (mem_addTag h hi).imp_right fun hrole => ⟨t, alone, rfl, hrole⟩

lemma Building.mem_foldlM {pieces : List Piece} {b b' : Building}
    (h : pieces.foldlM Building.add b = .ok b') {i : Invocation} (hi : i ∈ b'.insertions) :
    i ∈ b.insertions ∨ ∃ t alone, .tag t alone ∈ pieces ∧ t.role = .insertion i := by
  induction pieces generalizing b with
  | nil =>
    obtain rfl := Except.ok.inj h
    exact .inl hi
  | cons piece pieces ih =>
    rw [List.foldlM_cons] at h
    cases hadd : b.add piece with
    | error reason => simp [hadd, bind, Except.bind] at h
    | ok next =>
      rw [hadd] at h
      rcases ih h with hnext | ⟨t, alone, hmem, hrole⟩
      · refine (mem_add hadd hnext).imp_right ?_
        rintro ⟨t, alone, rfl, hrole⟩
        exact ⟨t, alone, List.mem_cons_self, hrole⟩
      · exact .inr ⟨t, alone, List.mem_cons_of_mem piece hmem, hrole⟩

/-- The insertions of a tree come from tags. -/
lemma exists_tag_of_ofPieces {pieces : List Piece} {ns : List Node} (h : ofPieces pieces = .ok ns)
    {i : Invocation} (hi : i ∈ allInsertions ns) :
    ∃ t alone, .tag t alone ∈ pieces ∧ t.role = .insertion i := by
  unfold ofPieces at h
  cases hfold : pieces.foldlM Building.add .empty with
  | error reason => simp [hfold, Except.bind] at h
  | ok b =>
    rw [hfold] at h
    have hb : i ∈ b.insertions := by
      change b.finish = .ok ns at h
      unfold Building.finish at h
      split at h
      · obtain rfl := Except.ok.inj h
        exact List.mem_append_left _ (mem_allInsertions_reverse.mp hi)
      · cases h
    exact (Building.mem_foldlM hfold hb).resolve_left (List.not_mem_nil)

end Node

/-! ### Tags in texts -/

namespace Tag

lemma role_of_close? {braces : String} {omitBefore : Bool} {role : TagRole} {cs rest : List Char}
    {t : Tag} (h : close? braces omitBefore role cs = some (t, rest)) : t.role = role := by
  obtain ⟨_, -, heq⟩ := Option.map_eq_some_iff.mp h
  rw [← (Prod.mk.inj heq).1]

end Tag

namespace Piece

lemma mem_of_mem_layOut {omitted lineGone : Bool} {pieces : List Piece} {t : Tag} {alone : Bool}
    (h : .tag t alone ∈ layOut omitted lineGone pieces) : .tag t alone ∈ pieces := by
  fun_induction layOut omitted lineGone pieces with
  | case1 => exact h
  | case2 omitted lineGone cs rest _ ih => exact List.mem_cons_of_mem _ (ih h)
  | case3 omitted lineGone cs rest _ kept ih =>
    rcases List.mem_cons.mp h with heq | h
    · cases heq
    · exact List.mem_cons_of_mem _ (ih h)
  | case4 _ _ _ _ _ _ ih | case5 _ _ _ _ _ _ _ ih | case6 _ _ _ _ _ _ _ ih =>
    rcases List.mem_cons.mp h with heq | h
    · exact heq ▸ List.mem_cons_self
    · exact List.mem_cons_of_mem _ (ih h)

lemma tag_notMem_ofRun {run : List Char} {t : Tag} {alone : Bool} : .tag t alone ∉ ofRun run := by
  rw [ofRun]
  split_ifs <;> simp

/-- The tag of an insertion stands behind the braces that open it. -/
lemma read?_of_mem_readTag? {lineBlank : Bool} {cs after : List Char} {tags : List Piece}
    (h : readTag? lineBlank cs = some (tags, after)) {t : Tag} {alone : Bool}
    (ht : .tag t alone ∈ tags) {i : Invocation} (hi : t.role = .insertion i) :
    ∃ inside, cs = braces ++ inside ∧ Tag.read? inside = some (t, after) := by
  rw [readTag?] at h
  split at h
  · next rest hwide =>
    -- A verbatim block has no tags but the two around it.
    obtain ⟨opened, hopened, h⟩ := Option.bind_eq_some_iff.mp h
    obtain ⟨closed, hclosed, h⟩ := Option.bind_eq_some_iff.mp h
    obtain ⟨rfl, -⟩ := Prod.mk.inj (Option.some.inj h)
    obtain ⟨_, -, hopened⟩ := Option.bind_eq_some_iff.mp hopened
    obtain ⟨_, -, hclosed⟩ := Option.bind_eq_some_iff.mp hclosed
    obtain ⟨_, -, hclosed⟩ := Option.bind_eq_some_iff.mp hclosed
    obtain ⟨_, -, hclosed⟩ := Option.bind_eq_some_iff.mp hclosed
    simp only [List.singleton_append, List.mem_cons, List.mem_append, List.mem_nil_iff,
      tag_notMem_ofRun, Piece.tag.injEq, or_false] at ht
    rcases ht with ⟨rfl, -⟩ | ⟨rfl, -⟩
    · rw [Tag.role_of_close? hopened] at hi
      cases hi
    · rw [Tag.role_of_close? hclosed] at hi
      cases hi
  · obtain ⟨inside, hinside, h⟩ := Option.bind_eq_some_iff.mp h
    obtain ⟨found, hfound, h⟩ := Option.bind_eq_some_iff.mp h
    obtain ⟨rfl, rfl⟩ := Prod.mk.inj (Option.some.inj h)
    obtain ⟨rfl, -⟩ := Piece.tag.inj (List.mem_singleton.mp ht)
    exact ⟨inside, SqlToken.eq_append_of_stripLead? hinside, hfound⟩

/-- The text of a template in which the tag of an insertion stands. -/
lemma exists_place_of_readAll? {budget : Nat} {lineBlank : Bool} {cs : List Char}
    {pieces : List Piece} (h : readAll? lineBlank budget cs = some pieces) {t : Tag} {alone : Bool}
    (ht : .tag t alone ∈ pieces) {i : Invocation} (hi : t.role = .insertion i) :
    ∃ inside after, braces ++ inside <:+ cs ∧ Tag.read? inside = some (t, after) := by
  induction budget generalizing lineBlank cs pieces with
  | zero => cases h
  | succ budget ih =>
    have hrun := readRun_suffix braces false cs
    rw [readAll?] at h
    generalize readRun braces false cs = found at h hrun
    dsimp only at h
    split_ifs at h
    · obtain rfl := Option.some.inj h
      exact absurd ht tag_notMem_ofRun
    · obtain ⟨⟨tags, rest⟩, htag, h⟩ := Option.bind_eq_some_iff.mp h
      obtain ⟨later, hlater, h⟩ := Option.bind_eq_some_iff.mp h
      obtain rfl := Option.some.inj h
      rw [List.mem_append, List.mem_append] at ht
      rcases ht with (ht | ht) | ht
      · exact absurd ht tag_notMem_ofRun
      · obtain ⟨inside, heq, hread⟩ := read?_of_mem_readTag? htag ht hi
        exact ⟨inside, rest, heq ▸ hrun, hread⟩
      · obtain ⟨inside, after, hinside, hread⟩ := ih hlater ht
        have hrest : rest <:+ found.2 := leaves_readTag? _ _ (tags, rest) htag
        exact ⟨inside, after, hinside.trans (hrest.trans hrun), hread⟩

end Piece

/-- Each insertion of a template is read from a tag in its text. -/
lemma Node.exists_place {text : String} {ns : List Node} (h : parse text = .ok ns)
    {i : Invocation} (hi : i ∈ allInsertions ns) :
    ∃ inside t after, Piece.braces ++ inside <:+ text.toList ∧
      Tag.read? inside = some (t, after) ∧ t.role = .insertion i := by
  unfold parse at h
  split at h
  · cases h
  · next pieces hpieces =>
    obtain ⟨t, alone, ht, hrole⟩ := exists_tag_of_ofPieces h hi
    obtain ⟨inside, after, hinside, hread⟩ :=
      Piece.exists_place_of_readAll? hpieces (Piece.mem_of_mem_layOut ht) hrole
    exact ⟨inside, t, after, hinside, hread, hrole⟩

end QueryLoom.Template

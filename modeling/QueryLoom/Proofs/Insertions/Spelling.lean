import QueryLoom.Proofs.Acyclic
import QueryLoom.Proofs.InsertionText
import QueryLoom.Proofs.Insertions.Places
import QueryLoom.Proofs.MapEntries

/-!
# How insertions are spelled

A registration looks for the names that a template inserts in its text: behind two braces, perhaps a
tilde, and the sign of an insertion stands a name of letters, digits and a few signs. A tag may have
white space before the sign, or insert a name of other characters. Then it is not seen, and by such
tags a template may insert itself.
-/

namespace QueryLoom

open Relation (TransGen ReflTransGen)

namespace Template

open Reference (isSpace skipSpace)
open Node (nameOf? insertedNames)

/-! ### Tags -/

/-- A tag inserts a template by its name; `after` follows the tag. -/
def Inserts (inside : List Char) (name : String) (after : List Char) : Prop :=
  ∃ t i, Tag.read? inside = some (t, after) ∧ t.role = .insertion i ∧ nameOf? i.target = some name

/-- A tag is spelled as it is looked for: its sign comes first, or after a tilde, and the name can
be mentioned. -/
structure PlainlySpelled (inside : List Char) (name : String) : Prop where
  sign : ∃ rest, inside = '>' :: rest ∨ inside = '~' :: '>' :: rest
  name : IsMentionName name

lemma isBlank_of_isSpace {c : Char} (h : isSpace c = true) : Text.isBlank c = true := by
  simp only [isSpace, Bool.or_eq_true, beq_iff_eq] at h
  rcases h with ((rfl | rfl) | rfl) | rfl <;> rfl

/-- Blanks in front are passed over with the white space among them. -/
lemma trimStart_skipSpace (cs : List Char) : Text.trimStart (skipSpace cs) = Text.trimStart cs := by
  induction cs with
  | nil => rfl
  | cons c cs ih =>
    rw [skipSpace, List.dropWhile_cons]
    split_ifs with hspace
    · have hblank : Text.trimStart (c :: cs) = Text.trimStart cs :=
        List.dropWhile_cons_of_pos (isBlank_of_isSpace hspace)
      rw [hblank]
      exact ih
    · rfl

lemma takeWhile_eq_of_imp {α : Type} {p q : α → Bool} {as : List α}
    (hpq : ∀ a, p a = true → q a = true) (h : ∀ a ∈ as.takeWhile q, p a = true) :
    as.takeWhile p = as.takeWhile q := by
  induction as with
  | nil => rfl
  | cons a as ih =>
    by_cases hq : q a = true
    · rw [List.takeWhile_cons_of_pos hq] at h ⊢
      rw [List.takeWhile_cons_of_pos (h a List.mem_cons_self),
        ih fun b hb => h b (List.mem_cons_of_mem a hb)]
    · rw [List.takeWhile_cons_of_neg hq, List.takeWhile_cons_of_neg fun hp => hq (hpq a hp)]

/-! ### Names -/

/-- A name that can be mentioned is read up to its end. -/
lemma takeWhile_of_readTemplateName? {cs name rest : List Char}
    (h : Tag.readTemplateName? cs = some (name, rest))
    (hname : IsMentionName (String.ofList name)) : cs.takeWhile isMentionChar = name := by
  have hchars : ∀ c ∈ name, isMentionChar c = true := by simpa using hname.chars
  rw [Tag.readTemplateName?.eq_def] at h
  split at h
  · rw [Tag.readQuotedName?] at h
    split_ifs at h
    obtain ⟨_, -, heq⟩ := Option.map_eq_some_iff.mp h
    obtain ⟨rfl, -⟩ := Prod.mk.inj heq
    exact absurd (hchars '\'' List.mem_cons_self) (by decide)
  · dsimp only at h
    split_ifs at h
    obtain ⟨rfl, -⟩ := Prod.mk.inj (Option.some.inj h)
    exact takeWhile_eq_of_imp (fun _ => isTemplateChar_of_isMentionChar) hchars

/-- Where no name of a template stands, no reference has a text that can be mentioned. -/
lemma not_isMentionName_of_reference {cs rest : List Char} {r : Reference}
    (hnone : Tag.readTemplateName? cs = none) (h : Reference.read? cs = some (r, rest)) :
    ¬ IsMentionName r.text := by
  intro hname
  obtain ⟨k, hk⟩ : ∃ k, r.text = String.ofList (cs.take k) := by
    obtain ⟨_, -, h⟩ := Option.bind_eq_some_iff.mp h
    obtain ⟨rfl, -⟩ := Prod.mk.inj (Option.some.inj h)
    exact ⟨_, rfl⟩
  have hne := hname.ne_nil
  have hchars := hname.chars
  rw [hk, String.toList_ofList] at hne hchars
  obtain ⟨c, cs, rfl⟩ := List.exists_cons_of_ne_nil fun hnil : cs = [] => hne (by simp [hnil])
  obtain ⟨k, rfl⟩ := Nat.exists_eq_succ_of_ne_zero fun hzero : k = 0 => hne (by simp [hzero])
  have hc : isMentionChar c = true := hchars c (by simp)
  rw [Tag.readTemplateName?.eq_def] at hnone
  split at hnone
  · next hquote => exact ne_of_isMentionChar hc (by decide) (List.cons.inj hquote).1
  · rw [List.takeWhile_cons_of_pos (isTemplateChar_of_isMentionChar hc)] at hnone
    simp at hnone

/-- The name of an inserted template that can be mentioned is what stands in front. -/
lemma takeWhile_of_readTemplate? {cs rest : List Char} {i : Invocation} {name : String}
    (h : Tag.readTemplate? cs = some (i, rest)) (htarget : nameOf? i.target = some name)
    (hname : IsMentionName name) : cs.takeWhile isMentionChar = name.toList := by
  rw [Tag.readTemplate?] at h
  dsimp only at h
  split at h
  · next found rest' hfound =>
    obtain ⟨rfl, -⟩ := Prod.mk.inj (Option.some.inj h)
    obtain rfl := Option.some.inj htarget
    rw [String.toList_ofList]
    exact takeWhile_of_readTemplateName? hfound hname
  · next hnone =>
    obtain ⟨⟨target, rest'⟩, hplain, h⟩ := Option.bind_eq_some_iff.mp h
    obtain ⟨rfl, -⟩ := Prod.mk.inj (Option.some.inj h)
    obtain ⟨⟨value, rest''⟩, hvalue, heq⟩ := Option.map_eq_some_iff.mp hplain
    obtain ⟨rfl, -⟩ := Prod.mk.inj heq
    rw [Tag.readPlainValue?] at hvalue
    split at hvalue
    · obtain ⟨rfl, -⟩ := Prod.mk.inj (Option.some.inj hvalue)
      cases htarget
    · obtain ⟨⟨r, after⟩, hr, heq⟩ := Option.map_eq_some_iff.mp hvalue
      obtain ⟨rfl, -⟩ := Prod.mk.inj heq
      obtain rfl := Option.some.inj htarget
      exact absurd hname (not_isMentionName_of_reference hnone hr)

/-! ### Mentions -/

lemma mention?_sign {inside rest : List Char}
    (h : inside = '>' :: rest ∨ inside = '~' :: '>' :: rest) :
    mention? (Piece.braces ++ inside) =
      let name := (Text.trimStart rest).takeWhile isMentionChar
      if name.isEmpty then none else some (String.ofList name) := by
  rcases h with rfl | rfl <;> rfl

lemma read?_sign {inside rest : List Char}
    (h : inside = '>' :: rest ∨ inside = '~' :: '>' :: rest) :
    ∃ omitBefore, Tag.read? inside = (Tag.readTemplate? (skipSpace rest)).bind fun (i, rest) =>
      Tag.finish? omitBefore (.insertion i) rest := by
  rcases h with rfl | rfl
  · exact ⟨false, rfl⟩
  · exact ⟨true, rfl⟩

/-- What is mentioned behind two braces is spelled plainly. -/
lemma plainlySpelled_of_mention? {inside : List Char} {name : String}
    (h : mention? (Piece.braces ++ inside) = some name) : PlainlySpelled inside name := by
  obtain ⟨rest, hrest, h⟩ := Option.bind_eq_some_iff.mp h
  have hsign := SqlToken.eq_append_of_stripLead? hrest
  dsimp only at h
  split_ifs at h with hempty
  obtain rfl := Option.some.inj h
  refine ⟨⟨rest, ?_⟩, ⟨by simpa using hempty, fun c hc => ?_⟩⟩
  · split at hsign
    · next htilde => exact .inr (htilde.trans (by rw [hsign]; rfl))
    · exact .inl hsign
  · rw [String.toList_ofList] at hc
    exact List.mem_takeWhile_imp hc

/-- A tag that is spelled plainly is seen. -/
lemma mention?_of_plainlySpelled {inside after : List Char} {name : String}
    (h : Inserts inside name after) (hplain : PlainlySpelled inside name) :
    mention? (Piece.braces ++ inside) = some name := by
  obtain ⟨⟨rest, hsign⟩, hname⟩ := hplain
  obtain ⟨t, i, hread, hrole, htarget⟩ := h
  obtain ⟨omitBefore, hinside⟩ := read?_sign hsign
  rw [hinside] at hread
  obtain ⟨⟨i', rest'⟩, htemplate, hclose⟩ := Option.bind_eq_some_iff.mp hread
  obtain rfl : i' = i := TagRole.insertion.inj ((Tag.role_of_close? hclose).symm.trans hrole)
  have hfront := takeWhile_of_readTemplate? htemplate htarget hname
  have htrim : Text.trimStart rest = skipSpace rest := by
    rw [← trimStart_skipSpace]
    cases hskip : skipSpace rest with
    | nil => rfl
    | cons c cs =>
      rw [hskip] at hfront
      have hc : isMentionChar c = true := by
        by_contra hnot
        rw [List.takeWhile_cons_of_neg hnot] at hfront
        exact hname.ne_nil hfront.symm
      exact List.dropWhile_cons_of_neg (by simp [isBlank_of_isMentionChar hc])
  rw [mention?_sign hsign, htrim, hfront]
  simp [hname.ne_nil]

lemma mention?_eq_some_iff {inside after : List Char} {name : String}
    (h : Inserts inside name after) :
    mention? (Piece.braces ++ inside) = some name ↔ PlainlySpelled inside name :=
  ⟨plainlySpelled_of_mention?, mention?_of_plainlySpelled h⟩

lemma mem_mentions {cs tail : List Char} {name : String} (htail : tail <:+ cs)
    (h : mention? tail = some name) : name ∈ mentions cs := by
  induction cs with
  | nil =>
    obtain rfl := List.suffix_nil.mp htail
    cases h
  | cons c cs ih =>
    rw [mentions, List.mem_append]
    rcases List.suffix_cons_iff.mp htail with rfl | htail
    · exact .inl (by simp [h])
    · exact .inr (ih htail)

lemma mem_sortedNames {names : List String} {name : String} :
    name ∈ sortedNames names ↔ name ∈ names := by
  rw [sortedNames, KeyMap.ofEntries, KeyMap.mem_keys_foldl_insert]
  simp [KeyMap.keys]

namespace Store

/-- A name is seen where a tag that is spelled plainly inserts it. -/
lemma mem_namesIn {text : String} {inside after : List Char} {name : String}
    (hplace : Piece.braces ++ inside <:+ text.toList) (h : Inserts inside name after)
    (hplain : PlainlySpelled inside name) : name ∈ namesIn text :=
  mem_sortedNames.mpr (mem_mentions hplace (mention?_of_plainlySpelled h hplain))

/-- Each name that a template inserts stands in a tag of its text. -/
lemma exists_inserts {text : String} {nodes : List Node} (hparse : Node.parse text = .ok nodes)
    {name : String} (h : name ∈ insertedNames nodes) :
    ∃ inside after, Piece.braces ++ inside <:+ text.toList ∧ Inserts inside name after := by
  obtain ⟨i, hi, htarget⟩ := List.mem_filterMap.mp h
  obtain ⟨inside, t, after, hplace, hread, hrole⟩ := Node.exists_place hparse hi
  exact ⟨inside, after, hplace, t, i, hread, hrole, htarget⟩

/-! ### Registered templates -/

/-- Each template of a store is what some registration made of its text. -/
def MadeBy (ops : List Operation) (s : Store) : Prop :=
  ∀ n r, KeyMap.get? n s = some r → ∃ text, .register n text ∈ ops ∧
    Node.parse text = .ok r.nodes ∧ r.references = namesIn text

lemma MadeBy.run {ops : List Operation} {s : Store} (h : s.MadeBy ops) {op : Operation}
    (hop : op ∈ ops) : (op.run s).MadeBy ops := by
  intro n r hr
  cases op with
  | unregister name =>
    have hget : KeyMap.get? n (KeyMap.erase name s) = some r := hr
    rw [KeyMap.get?_erase] at hget
    split_ifs at hget
    exact h n r hget
  | register name text =>
    cases hregister : s.register name text with
    | error err =>
      rw [Operation.run_register_of_error hregister] at hr
      exact h n r hr
    | ok s' =>
      rw [Operation.run_register hregister] at hr
      obtain ⟨nodes, hparse, rfl, -⟩ := register_eq_ok.mp hregister
      rw [KeyMap.get?_insert] at hr
      split_ifs at hr with hn
      · subst hn
        obtain rfl := Option.some.inj hr
        exact ⟨text, hop, hparse, rfl⟩
      · exact h n r hr

lemma madeBy_runAll (ops : List Operation) : (runAll [] ops).MadeBy ops := by
  have hsteps (later : List Operation) (hlater : later ⊆ ops) (s : Store) (hs : s.MadeBy ops) :
      (s.runAll later).MadeBy ops := by
    induction later generalizing s with
    | nil => exact hs
    | cons op later ih =>
      rw [List.cons_subset] at hlater
      exact ih hlater.2 _ (hs.run hlater.1)
  exact hsteps ops (List.Subset.refl ops) [] fun n r hr => by cases hr

/-! ### Inclusion -/

/-- A registered template inserts another one by its name. -/
def Includes (s : Store) (n m : String) : Prop :=
  ∃ nodes, s.nodes? n = some nodes ∧ m ∈ insertedNames nodes

/-- A template is not seen to insert another one only if it does so by a tag that is not spelled
plainly. -/
lemma exists_of_not_mentions {ops : List Operation} {a b : String}
    (h : (runAll [] ops).Includes a b) (hunseen : ¬ (runAll [] ops).Mentions a b) :
    ∃ text inside after, .register a text ∈ ops ∧ Piece.braces ++ inside <:+ text.toList ∧
      Inserts inside b after ∧ ¬ PlainlySpelled inside b := by
  obtain ⟨nodes, hnodes, hb⟩ := h
  obtain ⟨r, hr, rfl⟩ := Option.map_eq_some_iff.mp hnodes
  obtain ⟨text, hop, hparse, hreferences⟩ := madeBy_runAll ops a r hr
  obtain ⟨inside, after, hplace, hinserts⟩ := exists_inserts hparse hb
  refine ⟨text, inside, after, hop, hplace, hinserts, fun hplain => hunseen ?_⟩
  have hb : b ∈ r.references := by
    rw [hreferences]
    exact mem_namesIn hplace hinserts hplain
  rw [Mentions, references, hr]
  exact hb

/-- On a path, each step is of another kind as well, or some step is not. -/
lemma transGen_or_exists {α : Type} {r r' : α → α → Prop} {a b : α} (h : TransGen r a b) :
    TransGen r' a b ∨
      ∃ c d, ReflTransGen r a c ∧ r c d ∧ ReflTransGen r d b ∧ ¬ r' c d := by
  induction h using TransGen.head_induction_on with
  | @single a hab =>
    by_cases hab' : r' a b
    · exact .inl (.single hab')
    · exact .inr ⟨a, b, .refl, hab, .refl, hab'⟩
  | @head a c hac hcb ih =>
    by_cases hac' : r' a c
    · rcases ih with hpath | ⟨d, e, hcd, hde, heb, hde'⟩
      · exact .inl (.head hac' hpath)
      · exact .inr ⟨d, e, .head hac hcd, hde, heb, hde'⟩
    · exact .inr ⟨a, c, .refl, hac, hcb.to_reflTransGen, hac'⟩

/-! ### Lone tags -/

/-- A template that inserts itself is registered first of all exactly if it is not seen to do so. -/
lemma register_self_iff {n text : String} {nodes : List Node}
    (hparse : Node.parse text = .ok nodes) (hn : n ∈ insertedNames nodes) :
    (∃ s, register n text [] = .ok s ∧ s.Includes n n) ↔ n ∉ namesIn text := by
  constructor
  · rintro ⟨s, hregister, -⟩ hmem
    obtain ⟨nodes', -, rfl, hshallow⟩ := register_eq_ok.mp hregister
    refine hshallow.not_transGen (.single ?_)
    rw [mentions_insert, if_pos rfl]
    exact hmem
  · intro hmem
    have hcheck : checkAll [] n (namesIn text) = .ok () := by
      rw [checkAll_eq_ok]
      intro m hm
      have hnone (m' : String) : ¬ Mentions [] m m' := List.not_mem_nil
      refine ⟨fun ms hms => ?_, fun hpath => ?_⟩
      · cases hms with
        | singleton => simp [maxDepth]
        | cons_cons hm' => exact absurd hm' (hnone _)
      · rcases ReflTransGen.cases_head_iff.mp hpath with rfl | ⟨m', hm', -⟩
        · exact hmem hm
        · exact hnone m' hm'
    refine ⟨KeyMap.insert n ⟨nodes, namesIn text⟩ [], ?_, nodes, ?_, hn⟩
    · rw [register_eq, hcheck, hparse]
    · rw [nodes?, KeyMap.get?_insert_self]
      rfl

/-- A text that is the tag of an insertion, with no braces in it, is seen exactly if it is spelled
plainly. -/
lemma mem_namesIn_of_lone {inside : List Char} {name : String} (h : Inserts inside name [])
    (hbrace : '\x7b' ∉ inside) :
    name ∈ namesIn (String.ofList (Piece.braces ++ inside)) ↔ PlainlySpelled inside name := by
  rw [namesIn, mem_sortedNames, String.toList_ofList, mentions_of_lone hbrace, Option.mem_toList,
    mention?_eq_some_iff h]

/-- A template that inserts itself makes up a circle. -/
lemma transGen_of_register_self {n text : String} {s : Store}
    (hregister : register n text [] = .ok s) (hself : s.Includes n n) :
    TransGen (runAll [] [.register n text]).Includes n n := by
  have hrun : runAll [] [.register n text] = s := by
    rw [runAll, List.foldl_cons, List.foldl_nil, Operation.run_register hregister]
  rw [hrun]
  exact .single hself

/-- White space before the sign does not change what a tag inserts. -/
lemma inserts_spaced {name : String} (h : IsMentionName name) :
    Inserts (' ' :: '>' :: closed name.toList) name [] := by
  have hread : Tag.read? (' ' :: '>' :: closed name.toList) =
      Tag.read? ('>' :: closed name.toList) := rfl
  exact ⟨insertionTag name, _, hread.trans (read_insertion h), rfl, rfl⟩

lemma not_plainlySpelled_spaced (cs : List Char) (name : String) :
    ¬ PlainlySpelled (' ' :: '>' :: cs) name := by
  rintro ⟨⟨rest, hrest | hrest⟩, -⟩ <;> cases hrest

/-! ### Circles -/

/-- A template that is inserted by its name stands in a tag of the text, and that is seen exactly if
it is spelled plainly. So where registered templates insert each other in a circle, one of them does
it by a tag that is spelled in another way, and each such tag makes up a template that may be
registered although it inserts itself. -/
theorem insertions_seen_by_spelling (ops : List Operation) :
    (∀ text nodes name, Node.parse text = .ok nodes → name ∈ insertedNames nodes →
      ∃ inside after, Piece.braces ++ inside <:+ text.toList ∧ Inserts inside name after) ∧
    (∀ text inside name after, Piece.braces ++ inside <:+ text.toList →
      Inserts inside name after →
      (mention? (Piece.braces ++ inside) = some name ↔ PlainlySpelled inside name) ∧
      (PlainlySpelled inside name → name ∈ namesIn text)) ∧
    (∀ n, TransGen (runAll [] ops).Includes n n → ∃ a b text inside after,
      ReflTransGen (runAll [] ops).Includes n a ∧ (runAll [] ops).Includes a b ∧
      ReflTransGen (runAll [] ops).Includes b n ∧ .register a text ∈ ops ∧
      Piece.braces ++ inside <:+ text.toList ∧ Inserts inside b after ∧
      ¬ PlainlySpelled inside b) ∧
    (∀ inside name, Inserts inside name [] → '\x7b' ∉ inside →
      ((∃ s, register name (String.ofList (Piece.braces ++ inside)) [] = .ok s ∧
        s.Includes name name) ↔ ¬ PlainlySpelled inside name)) := by
  refine ⟨fun text nodes name hparse hname => exists_inserts hparse hname,
    fun text inside name after hplace hinserts =>
      ⟨mention?_eq_some_iff hinserts, mem_namesIn hplace hinserts⟩,
    fun n hcircle => ?_, fun inside name hinserts hbrace => ?_⟩
  · rcases transGen_or_exists hcircle with hcycle | ⟨a, b, hna, hab, hbn, hunseen⟩
    · exact absurd hcycle (acyclic_empty.runAll ops n)
    · obtain ⟨text, inside, after, hplace⟩ := exists_of_not_mentions hab hunseen
      exact ⟨a, b, text, inside, after, hna, hab, hbn, hplace⟩
  · obtain ⟨t, i, hread, hrole, htarget⟩ := hinserts
    have hparse := parse_of_read? hread hbrace hrole
    have hname : name ∈ insertedNames [.insertion i none] := by
      simp [insertedNames, Node.allInsertions, Node.insertions, htarget]
    rw [register_self_iff hparse hname,
      mem_namesIn_of_lone ⟨t, i, hread, hrole, htarget⟩ hbrace]

/-- A template with white space before the sign inserts itself and is registered. -/
theorem insertions_seen_by_spelling_me :
    Inserts (' ' :: '>' :: closed "me".toList) "me" [] ∧ '\x7b' ∉ ' ' :: '>' :: closed "me".toList ∧
    mention? (Piece.braces ++ ' ' :: '>' :: closed "me".toList) ≠ some "me" ∧
    (∃ s, register "me" "\x7b\x7b >me\x7d\x7d" [] = .ok s ∧ s.Includes "me" "me") ∧
    TransGen (runAll [] [.register "me" "\x7b\x7b >me\x7d\x7d"]).Includes "me" "me" ∧
    ∃ b inside after, Piece.braces ++ inside <:+ "\x7b\x7b >me\x7d\x7d".toList ∧
      Inserts inside b after ∧ ¬ PlainlySpelled inside b := by
  have hname : IsMentionName "me" :=
    ⟨by decide +kernel, List.all_eq_true.mp (by decide +kernel)⟩
  have htext : String.ofList (Piece.braces ++ ' ' :: '>' :: closed "me".toList) =
      "\x7b\x7b >me\x7d\x7d" := by
    decide +kernel
  have hinserts := inserts_spaced hname
  have hbrace : '\x7b' ∉ ' ' :: '>' :: closed "me".toList := by
    decide +kernel
  have hspelling := not_plainlySpelled_spaced (closed "me".toList) "me"
  obtain ⟨-, hseen, hcircles, hself⟩ :=
    insertions_seen_by_spelling [.register "me" "\x7b\x7b >me\x7d\x7d"]
  have hplace : Piece.braces ++ ' ' :: '>' :: closed "me".toList <:+
      "\x7b\x7b >me\x7d\x7d".toList := by
    decide +kernel
  have hunseen := mt (hseen _ _ _ _ hplace hinserts).1.mp hspelling
  obtain ⟨s, hregister, hincludes⟩ := (hself _ _ hinserts hbrace).mpr hspelling
  rw [htext] at hregister
  have hcircle := transGen_of_register_self hregister hincludes
  obtain ⟨a, b, text, inside, after, -, -, -, hop, hfound⟩ := hcircles "me" hcircle
  obtain ⟨-, rfl⟩ := Operation.register.inj (List.mem_singleton.mp hop)
  exact ⟨hinserts, hbrace, hunseen, ⟨s, hregister, hincludes⟩, hcircle, b, inside, after, hfound⟩

/-- A name after white space and the sign of an insertion is not looked for, so the template that
inserts itself in this way is let pass. -/
theorem spaced_insertion_unseen :
    ∃ nodes, Node.parse "x\x7b\x7b > me\x7d\x7d" = .ok nodes ∧ "me" ∈ insertedNames nodes ∧
      "me" ∉ namesIn "x\x7b\x7b > me\x7d\x7d" ∧
      TransGen (runAll [] [.register "me" "x\x7b\x7b > me\x7d\x7d"]).Includes "me" "me" := by
  have hnames : (Node.parse "x\x7b\x7b > me\x7d\x7d").toOption.map insertedNames =
      some ["me"] := by
    decide +kernel
  have hunseen : "me" ∉ namesIn "x\x7b\x7b > me\x7d\x7d" := by
    decide +kernel
  obtain ⟨nodes, hnodes, hinserted⟩ := Option.map_eq_some_iff.mp hnames
  have hparse : Node.parse "x\x7b\x7b > me\x7d\x7d" = .ok nodes := by
    cases hfound : Node.parse "x\x7b\x7b > me\x7d\x7d" with
    | error reason => rw [hfound] at hnodes; cases hnodes
    | ok found => rw [hfound] at hnodes; exact congrArg _ (Option.some.inj hnodes)
  have hme : "me" ∈ insertedNames nodes := by simp [hinserted]
  obtain ⟨s, hregister, hself⟩ := (register_self_iff hparse hme).mpr hunseen
  exact ⟨nodes, hparse, hme, hunseen, transGen_of_register_self hregister hself⟩

end Store

end Template

end QueryLoom

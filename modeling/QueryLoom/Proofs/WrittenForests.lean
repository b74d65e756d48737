import Mathlib.Data.List.Basic
import QueryLoom.Markup.Node

/-!
# Forests and the tokens they are written with

A forest can be written in many ways: a text may be cut into pieces, an element without children may
have one tag or two, and asides may stand anywhere. Reading gives back the forest that was written,
whichever way was chosen, and whatever can be read is a way to write the forest that was read.
-/

namespace QueryLoom.Markup.Node

/-! ### Writing -/

/-- A text as one or more pieces, each a text or a CDATA section, with asides in front of them. -/
inductive Cut : String → List Token → Prop where
  | last (s : String) : Cut s [.text s]
  | aside {s : String} {ts : List Token} (h : Cut s ts) : Cut s (.aside :: ts)
  | piece (s : String) {rest : String} {ts : List Token} (h : Cut rest ts) :
      Cut (s ++ rest) (.text s :: ts)

/-- The tokens are a way to write the forest. -/
inductive Writes : List Node → List Token → Prop where
  | nil : Writes [] []
  | aside {ns : List Node} {ts : List Token} (h : Writes ns ts) : Writes ns (.aside :: ts)
  | text {s : String} {pieces : List Token} {ns : List Node} {ts : List Token}
      (hs : Cut s pieces) (h : Writes ns ts) : Writes (.text s :: ns) (pieces ++ ts)
  | childless (name : String) (attributes : KeyMap String) {ns : List Node} {ts : List Token}
      (h : Writes ns ts) :
      Writes (.element name attributes [] :: ns) (.childless name attributes :: ts)
  | element (name : String) (attributes : KeyMap String) {children ns : List Node}
      {inner ts : List Token} (hchildren : Writes children inner) (h : Writes ns ts) :
      Writes (.element name attributes children :: ns)
        (.opening name attributes :: inner ++ .closing name :: ts)

/-- A forest that begins with a text. -/
def startsWithText : List Node → Bool
  | .text _ :: _ => true
  | _ => false

/-- No two texts are neighbours, neither in the forest nor among the children of an element. -/
inductive Separated : List Node → Prop where
  | nil : Separated []
  | text (s : String) {ns : List Node} (hns : startsWithText ns = false) (h : Separated ns) :
      Separated (.text s :: ns)
  | element (name : String) (attributes : KeyMap String) {children ns : List Node}
      (hchildren : Separated children) (h : Separated ns) :
      Separated (.element name attributes children :: ns)

/-- Every closing tag has an opening tag of its name before it, every opening tag a closing one
after it, and what stands between them is nested in the same way. -/
inductive Nested : List Token → Prop where
  | nil : Nested []
  | aside {ts : List Token} (h : Nested ts) : Nested (.aside :: ts)
  | text (s : String) {ts : List Token} (h : Nested ts) : Nested (.text s :: ts)
  | childless (name : String) (attributes : KeyMap String) {ts : List Token} (h : Nested ts) :
      Nested (.childless name attributes :: ts)
  | element (name : String) (attributes : KeyMap String) {inner ts : List Token}
      (hinner : Nested inner) (h : Nested ts) :
      Nested (.opening name attributes :: inner ++ .closing name :: ts)

/-! ### Reading what was written -/

/-- Read tokens one after the other. -/
def Building.addAll (b : Building) (ts : List Token) : Except ParseFault Building :=
  ts.foldlM Building.add b

lemma Building.addAll_cons (b : Building) (t : Token) (ts : List Token) :
    b.addAll (t :: ts) = (b.add t).bind (·.addAll ts) := by
  rw [addAll, List.foldlM_cons]
  rfl

lemma Building.addAll_append (b : Building) (ts us : List Token) :
    b.addAll (ts ++ us) = (b.addAll ts).bind (·.addAll us) := by
  rw [addAll, List.foldlM_append]
  rfl

/-- The pieces of a text that begins among other nodes join into it. -/
lemma Cut.addAll_joined {s : String} {pieces : List Token} (h : Cut s pieces) (before : String)
    (opened : List Opened) (nodes : List Node) :
    Building.addAll ⟨opened, .text before :: nodes⟩ pieces
      = .ok ⟨opened, .text (before ++ s) :: nodes⟩ := by
  induction h generalizing before with
  | last s => rfl
  | aside _ ih => exact ih before
  | piece s _ ih =>
    rw [← String.append_assoc]
    exact ih (before ++ s)

/-- The pieces of a text behind no other text become one node. -/
lemma Cut.addAll {s : String} {pieces : List Token} (h : Cut s pieces) {opened : List Opened}
    {nodes : List Node} (hnodes : startsWithText nodes = false) :
    Building.addAll ⟨opened, nodes⟩ pieces = .ok ⟨opened, .text s :: nodes⟩ := by
  have hadd : ∀ s, Building.add ⟨opened, nodes⟩ (.text s) = .ok ⟨opened, .text s :: nodes⟩ := by
    intro s
    rw [Building.add]
    cases nodes with
    | nil => rfl
    | cons n nodes =>
      cases n with
      | text => cases hnodes
      | element => rfl
  induction h with
  | last s => rw [Building.addAll_cons, hadd]; rfl
  | aside _ ih => exact ih
  | piece s h _ =>
    rw [Building.addAll_cons, hadd]
    exact h.addAll_joined s opened nodes

lemma addTo_element (siblings : List Node) (name : String) (attributes : KeyMap String)
    (children : List Node) : addTo siblings (.element name attributes children)
      = .element name attributes children :: siblings := by
  cases siblings <;> rfl

/-- The tokens of a forest add its nodes to those before them. The induction is on how the forest
is written, so that an element is read by what is known of its children. -/
lemma Writes.addAll {ns : List Node} {ts : List Token} (h : Writes ns ts) (hns : Separated ns)
    {opened : List Opened} {nodes : List Node}
    (hborder : startsWithText nodes = false ∨ startsWithText ns = false) :
    Building.addAll ⟨opened, nodes⟩ ts = .ok ⟨opened, ns.reverse ++ nodes⟩ := by
  induction h generalizing opened nodes with
  | nil => rfl
  | aside _ ih => exact ih hns hborder
  | @text s pieces ns ts hs _ ih =>
    cases hns with
    | text _ hstart hns =>
      have hnodes : startsWithText nodes = false := hborder.resolve_right (by simp [startsWithText])
      rw [Building.addAll_append, hs.addAll hnodes]
      change Building.addAll ⟨opened, .text s :: nodes⟩ ts = _
      rw [ih hns (.inr hstart)]
      simp
  | childless name attributes _ ih =>
    cases hns with
    | element _ _ _ hns =>
      change Building.addAll ⟨opened, addTo nodes _⟩ _ = _
      rw [addTo_element, ih hns (.inl rfl)]
      simp
  | @element name attributes children ns inner ts _ _ ihchildren ih =>
    cases hns with
    | element _ _ hchildren hns =>
      rw [List.cons_append, Building.addAll_cons]
      change Building.addAll ⟨⟨name, attributes, nodes⟩ :: opened, []⟩ _ = _
      rw [Building.addAll_append, ihchildren hchildren (.inl rfl)]
      change (Building.addAll ⟨_ :: opened, _⟩ (.closing name :: ts)) = _
      rw [Building.addAll_cons, Building.add]
      dsimp only
      rw [if_pos rfl]
      change Building.addAll ⟨opened, addTo nodes _⟩ _ = _
      rw [addTo_element, ih hns (.inl rfl)]
      simp

/-! ### Ways to write -/

lemma Cut.append {s s' : String} {pieces pieces' : List Token} (h : Cut s pieces)
    (h' : Cut s' pieces') : Cut (s ++ s') (pieces ++ pieces') := by
  induction h with
  | last s => exact .piece s h'
  | aside _ ih => exact .aside ih
  | piece s _ ih =>
    rw [String.append_assoc]
    exact .piece s ih

lemma Cut.writes_nil_append {s : String} {pieces ts : List Token} (h : Cut s pieces)
    (hts : Writes [] ts) : Cut s (ts ++ pieces) := by
  generalize hns : ([] : List Node) = ns at hts
  induction hts with
  | nil => exact h
  | aside _ ih => exact .aside (ih hns)
  | _ => cases hns

lemma Writes.append {ns ms : List Node} {ts us : List Token} (h : Writes ns ts)
    (h' : Writes ms us) : Writes (ns ++ ms) (ts ++ us) := by
  induction h with
  | nil => exact h'
  | aside _ ih => exact .aside ih
  | text hs _ ih =>
    rw [List.append_assoc]
    exact .text hs ih
  | childless name attributes _ ih => exact .childless name attributes ih
  | element name attributes hchildren _ _ ih =>
    rw [List.append_assoc]
    exact .element name attributes hchildren ih

/-- One more piece behind a forest that ends with a text belongs to that text. -/
lemma Writes.join {ns : List Node} {before : String} {ts : List Token}
    (h : Writes (ns ++ [.text before]) ts) (s : String) :
    Writes (ns ++ [.text (before ++ s)]) (ts ++ [.text s]) := by
  generalize hms : ns ++ [.text before] = ms at h
  induction h generalizing ns with
  | nil => simp at hms
  | aside _ ih => exact .aside (ih hms)
  | @text s' pieces ms ts hs h ih =>
    cases ns with
    | nil =>
      obtain ⟨hbefore, rfl⟩ := List.cons.inj hms
      obtain rfl : before = s' := by simpa using hbefore
      rw [List.append_assoc]
      have hcut := hs.append ((Cut.last s).writes_nil_append h)
      simpa using Writes.text hcut .nil
    | cons n ns =>
      obtain ⟨rfl, hrest⟩ := List.cons.inj hms
      rw [List.append_assoc]
      exact .text hs (ih hrest)
  | childless name attributes _ ih =>
    cases ns with
    | nil => cases hms
    | cons n ns =>
      obtain ⟨rfl, hrest⟩ := List.cons.inj hms
      exact .childless name attributes (ih hrest)
  | element name attributes hchildren _ _ ih =>
    cases ns with
    | nil => cases hms
    | cons n ns =>
      obtain ⟨rfl, hrest⟩ := List.cons.inj hms
      rw [List.append_assoc]
      exact .element name attributes hchildren (ih hrest)

/-! ### Separated forests -/

lemma separated_text_cons {s : String} {ns : List Node} :
    Separated (.text s :: ns) ↔ startsWithText ns = false ∧ Separated ns := by
  constructor
  · rintro (_ | ⟨_, hns, h⟩)
    exact ⟨hns, h⟩
  · rintro ⟨hns, h⟩
    exact .text s hns h

lemma separated_element_cons {name : String} {attributes : KeyMap String}
    {children ns : List Node} : Separated (.element name attributes children :: ns) ↔
      Separated children ∧ Separated ns := by
  constructor
  · rintro (_ | _ | ⟨_, _, hchildren, h⟩)
    exact ⟨hchildren, h⟩
  · rintro ⟨hchildren, h⟩
    exact .element name attributes hchildren h

/-- Two forests side by side, the first one given last node first. -/
lemma separated_reverse_append (ns ms : List Node) : Separated (ns.reverse ++ ms) ↔
    Separated ns.reverse ∧ Separated ms ∧
      (startsWithText ns = true → startsWithText ms = false) := by
  induction ns generalizing ms with
  | nil => simp [Separated.nil, startsWithText]
  | cons n ns ih =>
    rw [List.reverse_cons, List.append_assoc, ih, ih]
    cases n with
    | text s =>
      simp [separated_text_cons, startsWithText, Separated.nil]
      tauto
    | element name attributes children =>
      simp [separated_element_cons, startsWithText, Separated.nil]
      tauto

lemma separated_addTo_text {nodes : List Node} (h : Separated nodes.reverse) (s : String) :
    Separated (addTo nodes (.text s)).reverse := by
  cases nodes with
  | nil => exact .text s rfl .nil
  | cons n nodes =>
    cases n with
    | text before =>
      rw [List.reverse_cons, separated_reverse_append] at h
      change Separated (Node.text (before ++ s) :: nodes).reverse
      rw [List.reverse_cons, separated_reverse_append]
      exact ⟨h.1, .text _ rfl .nil, h.2.2⟩
    | element name attributes children =>
      change Separated (Node.text s :: .element name attributes children :: nodes).reverse
      rw [List.reverse_cons, separated_reverse_append]
      exact ⟨h, .text s rfl .nil, nofun⟩

lemma separated_addTo_element {nodes children : List Node} (h : Separated nodes.reverse)
    (hchildren : Separated children) (name : String) (attributes : KeyMap String) :
    Separated (addTo nodes (.element name attributes children)).reverse := by
  rw [addTo_element, List.reverse_cons, separated_reverse_append]
  exact ⟨h, .element name attributes hchildren .nil, fun _ => rfl⟩

/-! ### Whatever is read was written -/

/-- What has been read writes the nodes before and inside the open elements. -/
inductive Building.ReadFrom : Building → List Token → Prop where
  | outside {nodes : List Node} {ts : List Token} (hnodes : Separated nodes.reverse)
      (h : Writes nodes.reverse ts) : ReadFrom ⟨[], nodes⟩ ts
  | inside {o : Opened} {outer : List Opened} {nodes : List Node} {ts inner : List Token}
      (hbefore : ReadFrom ⟨outer, o.before⟩ ts) (hnodes : Separated nodes.reverse)
      (h : Writes nodes.reverse inner) :
      ReadFrom ⟨o :: outer, nodes⟩ (ts ++ .opening o.name o.attributes :: inner)

lemma Building.ReadFrom.separated {b : Building} {ts : List Token} (h : b.ReadFrom ts) :
    Separated b.nodes.reverse := by
  cases h with
  | outside hnodes => exact hnodes
  | inside _ hnodes => exact hnodes

/-- More is read inside the innermost open element. -/
lemma Building.ReadFrom.grow {opened : List Opened} {nodes nodes' : List Node}
    {ts us : List Token} (h : ReadFrom ⟨opened, nodes⟩ ts) (hnodes' : Separated nodes'.reverse)
    (hwrites : ∀ inner, Writes nodes.reverse inner → Writes nodes'.reverse (inner ++ us)) :
    ReadFrom ⟨opened, nodes'⟩ (ts ++ us) := by
  cases h with
  | outside _ h => exact .outside hnodes' (hwrites _ h)
  | inside hbefore _ h =>
    rw [List.append_assoc]
    exact .inside hbefore hnodes' (hwrites _ h)

lemma writes_addTo_text {nodes : List Node} {ts : List Token} (h : Writes nodes.reverse ts)
    (s : String) : Writes (addTo nodes (.text s)).reverse (ts ++ [.text s]) := by
  have hlast : Writes [.text s] [.text s] := by simpa using Writes.text (.last s) .nil
  cases nodes with
  | nil => exact h.append hlast
  | cons n nodes =>
    cases n with
    | text before =>
      change Writes (Node.text (before ++ s) :: nodes).reverse _
      rw [List.reverse_cons] at h ⊢
      exact h.join s
    | element name attributes children =>
      change Writes (Node.text s :: .element name attributes children :: nodes).reverse _
      rw [List.reverse_cons]
      exact h.append hlast

lemma writes_addTo_element {nodes children : List Node} {ts us : List Token} {name : String}
    {attributes : KeyMap String} (h : Writes nodes.reverse ts)
    (hn : Writes [.element name attributes children] us) :
    Writes (addTo nodes (.element name attributes children)).reverse (ts ++ us) := by
  rw [addTo_element, List.reverse_cons]
  exact h.append hn

/-- Reading one more token keeps what has been read a writing of the nodes. -/
lemma Building.ReadFrom.add {b b' : Building} {ts : List Token} {t : Token} (h : b.ReadFrom ts)
    (hadd : b.add t = .ok b') : b'.ReadFrom (ts ++ [t]) := by
  obtain ⟨opened, nodes⟩ := b
  cases t with
  | aside =>
    obtain rfl := Except.ok.inj hadd
    exact h.grow h.separated fun inner hinner => by
      simpa using hinner.append (Writes.aside .nil)
  | text s =>
    obtain rfl := Except.ok.inj hadd
    exact h.grow (separated_addTo_text h.separated s) fun _ hinner => writes_addTo_text hinner s
  | childless name attributes =>
    obtain rfl := Except.ok.inj hadd
    exact h.grow (separated_addTo_element h.separated .nil name attributes) fun _ hinner =>
      writes_addTo_element hinner (.childless name attributes .nil)
  | opening name attributes =>
    obtain rfl := Except.ok.inj hadd
    exact .inside (o := ⟨name, attributes, nodes⟩) h .nil .nil
  | closing name =>
    cases h with
    | outside => cases hadd
    | @inside o outer _ ts inner hbefore hnodes h =>
      rw [Building.add] at hadd
      dsimp only at hadd
      split at hadd
      · next hname =>
        obtain rfl := Except.ok.inj hadd
        subst hname
        rw [List.append_assoc]
        refine hbefore.grow (separated_addTo_element hbefore.separated hnodes _ _) ?_
        intro before hwrites
        exact writes_addTo_element hwrites (.element o.name o.attributes h .nil)
      · cases hadd

lemma Building.ReadFrom.addAll {b b' : Building} {ts us : List Token} (h : b.ReadFrom ts)
    (hadd : b.addAll us = .ok b') : b'.ReadFrom (ts ++ us) := by
  induction us generalizing b ts with
  | nil =>
    obtain rfl := Except.ok.inj hadd
    simpa using h
  | cons t us ih =>
    rw [Building.addAll_cons] at hadd
    cases ht : b.add t with
    | error fault => simp [ht, Except.bind] at hadd
    | ok next =>
      rw [ht] at hadd
      simpa using ih (h.add ht) hadd

lemma ofTokens_eq (ts : List Token) :
    ofTokens ts = (Building.empty.addAll ts).bind Building.finish := rfl

/-- A list of tokens is read to a forest exactly if it is a way to write that forest, and no two
texts are neighbours in it. -/
lemma ofTokens_eq_ok_iff {ts : List Token} {ns : List Node} :
    ofTokens ts = .ok ns ↔ Separated ns ∧ Writes ns ts := by
  constructor
  · intro h
    rw [ofTokens_eq] at h
    cases hadd : Building.empty.addAll ts with
    | error fault => simp [hadd, Except.bind] at h
    | ok b =>
      have hnil : Separated ([] : List Node).reverse := .nil
      have hread : b.ReadFrom ts := (Building.ReadFrom.outside hnil .nil).addAll hadd
      rw [hadd] at h
      cases hread with
      | outside hnodes hwrites =>
        obtain rfl := Except.ok.inj h
        exact ⟨hnodes, hwrites⟩
      | inside => cases h
  · rintro ⟨hns, h⟩
    rw [ofTokens_eq, Building.empty, h.addAll hns (.inl rfl)]
    simp [Except.bind, Building.finish]

/-! ### Nested tags -/

lemma Cut.nested {s : String} {pieces ts : List Token} (h : Cut s pieces) (hts : Nested ts) :
    Nested (pieces ++ ts) := by
  induction h with
  | last s => exact .text s hts
  | aside _ ih => exact .aside ih
  | piece s _ ih => exact .text s ih

lemma Writes.nested {ns : List Node} {ts : List Token} (h : Writes ns ts) : Nested ts := by
  induction h with
  | nil => exact .nil
  | aside _ ih => exact .aside ih
  | text hs _ ih => exact hs.nested ih
  | childless name attributes _ ih => exact .childless name attributes ih
  | element name attributes _ _ ihchildren ih => exact .element name attributes ihchildren ih

/-- Nested tokens leave the same elements open. -/
lemma Nested.addAll {ts : List Token} (h : Nested ts) (opened : List Opened)
    (nodes : List Node) : ∃ nodes', Building.addAll ⟨opened, nodes⟩ ts = .ok ⟨opened, nodes'⟩ := by
  induction h generalizing opened nodes with
  | nil => exact ⟨nodes, rfl⟩
  | aside _ ih => exact ih opened nodes
  | text s _ ih => exact ih opened (addTo nodes (.text s))
  | childless name attributes _ ih => exact ih opened (addTo nodes (.element name attributes []))
  | @element name attributes inner ts _ _ ihinner ih =>
    obtain ⟨children, hchildren⟩ := ihinner (⟨name, attributes, nodes⟩ :: opened) []
    obtain ⟨nodes', hnodes'⟩ := ih opened (addTo nodes (.element name attributes children.reverse))
    refine ⟨nodes', ?_⟩
    rw [List.cons_append, Building.addAll_cons]
    change Building.addAll ⟨⟨name, attributes, nodes⟩ :: opened, []⟩ _ = _
    rw [Building.addAll_append, hchildren]
    change (Building.addAll ⟨_ :: opened, _⟩ (.closing name :: ts)) = _
    rw [Building.addAll_cons, Building.add]
    dsimp only
    rw [if_pos rfl]
    exact hnodes'

/-- A list of tokens is refused exactly if its tags are not properly nested. -/
lemma ofTokens_eq_error_iff {ts : List Token} :
    (∃ fault, ofTokens ts = .error fault) ↔ ¬ Nested ts := by
  constructor
  · rintro ⟨fault, hfault⟩ hnested
    obtain ⟨nodes, hnodes⟩ := hnested.addAll [] []
    rw [ofTokens_eq, Building.empty, hnodes] at hfault
    cases hfault
  · intro hnested
    cases hread : ofTokens ts with
    | error fault => exact ⟨fault, rfl⟩
    | ok ns => exact absurd (ofTokens_eq_ok_iff.mp hread).2.nested hnested

/-! ### Documents -/

/-- Reading gives back the forest that the tokens write, however texts are cut, elements without
children written and asides put in between; whatever is read has no neighbouring texts and was
written by the tokens; and tags that are not properly nested are refused. -/
theorem ofTokens_written :
    (∀ ts ns, ofTokens ts = .ok ns ↔ Separated ns ∧ Writes ns ts) ∧
      (∀ text ns, parse text = .ok ns → Separated ns) ∧
      ∀ ts, (∃ fault, ofTokens ts = .error fault) ↔ ¬ Nested ts := by
  refine ⟨fun _ _ => ofTokens_eq_ok_iff, ?_, fun _ => ofTokens_eq_error_iff⟩
  intro text ns h
  rw [parse] at h
  split at h
  · cases h
  · split at h
    · cases h
    · next hread =>
      obtain rfl := Except.ok.inj h
      exact (ofTokens_eq_ok_iff.mp hread).1

/-- A text that is cut by a CDATA section and a comment, and an element behind it. -/
theorem ofTokens_written_query :
    (∃ ns, parse "a &lt; 1 <![CDATA[AND b > ]]><!-- c -->2<if test='x'>y</if>" = .ok ns ∧
      Separated ns) ∧
    ofTokens [.text "a < 1 ", .text "AND b > ", .aside, .text "2", .opening "if" [("test", "x")],
        .text "y", .closing "if"] =
      .ok [.text "a < 1 AND b > 2", .element "if" [("test", "x")] [.text "y"]] := by
  have hparse : parse "a &lt; 1 <![CDATA[AND b > ]]><!-- c -->2<if test='x'>y</if>" =
      .ok [.text "a < 1 AND b > 2", .element "if" [("test", "x")] [.text "y"]] := rfl
  refine ⟨⟨_, hparse, ofTokens_written.2.1 _ _ hparse⟩, (ofTokens_written.1 _ _).mpr ⟨?_, ?_⟩⟩
  · exact .text _ rfl (.element "if" _ (.text "y" rfl .nil) .nil)
  · have hcut : Cut "a < 1 AND b > 2" [.text "a < 1 ", .text "AND b > ", .aside, .text "2"] :=
      .piece "a < 1 " (.piece "AND b > " (.aside (.last "2")))
    exact .text hcut (.element "if" _ (.text (.last "y") .nil) .nil)

end QueryLoom.Markup.Node

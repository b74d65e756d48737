import QueryLoom.Proofs.MapEntries
import QueryLoom.Proofs.SectionLines

/-!
# The scope of sections

Inside a section the entries of its object lie over those of what surrounds it, and after it they
are gone. So a line with sections stands for a text in an environment of objects, the innermost
first: a name is looked for in one object after the other, and a section over an array stands for
the texts of its body one after the other, each with one object of the array in front.

The only names that this leaves out are those of values that begin like the word for an alternative:
between braces they are read as one.
-/

namespace QueryLoom

/-! ### Values without repeated keys -/

mutual

/-- No object in the value has a key twice. -/
def Json.distinct : Json → Bool
  | .array items => distinctItems items
  | .object entries => decide (KeyMap.keys entries).Nodup && distinctEntries entries
  | _ => true

/-- No object in the items has a key twice. -/
def Json.distinctItems : List Json → Bool
  | [] => true
  | item :: items => item.distinct && distinctItems items

/-- No object in the values of the entries has a key twice. -/
def Json.distinctEntries : List (String × Json) → Bool
  | [] => true
  | (_, value) :: entries => value.distinct && distinctEntries entries

end

namespace Json

lemma distinct_of_mem {items : List Json} (h : distinctItems items = true) :
    ∀ item ∈ items, item.distinct = true := by
  induction items with
  | nil => exact List.forall_mem_nil _
  | cons item items ih =>
    rw [distinctItems, Bool.and_eq_true] at h
    exact List.forall_mem_cons.mpr ⟨h.1, ih h.2⟩

lemma distinct_of_get? {entries : KeyMap Json} (h : distinctEntries entries = true) {name : String}
    {value : Json} (hvalue : KeyMap.get? name entries = some value) : value.distinct = true := by
  induction entries with
  | nil => cases hvalue
  | cons entry entries ih =>
    obtain ⟨k, v⟩ := entry
    rw [distinctEntries, Bool.and_eq_true] at h
    rw [KeyMap.get?] at hvalue
    split_ifs at hvalue with hk
    · obtain rfl := Option.some.inj hvalue
      exact h.1
    · exact ih h.2 hvalue

end Json

namespace Template

/-! ### Surroundings -/

/-- The objects around a place of a template, the innermost first. -/
abbrev Surroundings := List (KeyMap Json)

/-- The objects that a section over a value goes through. -/
def objectsOf : Json → List (KeyMap Json)
  | .object entries => [entries]
  | .array items => items.filterMap fun
    | .object entries => some entries
    | _ => none
  | _ => []

/-- Whether a value is an object. -/
def isObject : Json → Bool
  | .object _ => true
  | _ => false

/-- Whether a value is an object, or an array of objects that is not empty. -/
def isOfObjects : Json → Bool
  | .object _ => true
  | .array items => !items.isEmpty && items.all isObject
  | _ => false

/-- The items of an array of objects are the objects of its sections. -/
lemma eq_map_objectsOf {items : List Json} (h : items.all isObject = true) :
    items = (objectsOf (.array items)).map .object := by
  induction items with
  | nil => rfl
  | cons item items ih =>
    rw [List.all_cons, Bool.and_eq_true] at h
    cases item with
    | object entries => exact congrArg (Json.object entries :: ·) (ih h.2)
    | _ => cases h.1

namespace Surroundings

variable (around : Surroundings)

/-- The value of a name in the innermost object that has one, or null. -/
def value (name : String) : Json := (around.findSome? (KeyMap.get? name)).getD .null

/-- The text of a name. -/
def textOf (name : String) : String := valueText (value around name)

/-- The objects of a section of a name. -/
def objects (name : String) : List (KeyMap Json) := objectsOf (value around name)

variable {around} in
lemma distinct_value (h : ∀ o ∈ around, (Json.object o).distinct = true) (name : String) :
    (value around name).distinct = true := by
  rw [value]
  cases hfound : around.findSome? (KeyMap.get? name) with
  | none => rfl
  | some v =>
    obtain ⟨o, ho, hv⟩ := List.exists_of_findSome?_eq_some hfound
    have hentries := h o ho
    rw [Json.distinct, Bool.and_eq_true] at hentries
    exact Json.distinct_of_get? hentries.2 hv

variable {around} in
lemma distinct_objects (h : ∀ o ∈ around, (Json.object o).distinct = true) (name : String) :
    ∀ o ∈ objects around name, (Json.object o).distinct = true := by
  have hvalue := distinct_value h name
  rw [objects]
  cases hv : value around name with
  | object entries =>
    rw [hv] at hvalue
    simpa [objectsOf] using hvalue
  | array items =>
    rw [hv, Json.distinct] at hvalue
    intro o ho
    obtain ⟨item, hitem, ho⟩ := List.mem_filterMap.mp ho
    split at ho
    · obtain rfl := Option.some.inj ho
      exact Json.distinct_of_mem hvalue _ hitem
    · cases ho
  | _ => exact List.forall_mem_nil _

/-- The surroundings in a nest of sections, for all choices of objects, in order. -/
def choices : List String → Surroundings → List Surroundings
  | [], around => [around]
  | name :: names, around => (objects around name).flatMap fun o => choices names (o :: around)

end Surroundings

namespace Line

/-- The text that a line stands for. -/
def meaning : Line → Surroundings → String
  | .text cs, _ => String.ofList cs
  | .value lead name rest, around =>
    String.ofList lead ++ Surroundings.textOf around name ++ rest.meaning around
  | .nested lead name body rest, around =>
    String.ofList lead ++
      String.join ((Surroundings.objects around name).map fun o => body.meaning (o :: around)) ++
      rest.meaning around

/-- Whether every section of the line is over an object, or over an array of objects that is not
empty. -/
def isScoped : Line → Surroundings → Bool
  | .text _, _ => true
  | .value _ _ rest, around => rest.isScoped around
  | .nested _ name body rest, around =>
    isOfObjects (Surroundings.value around name) &&
      ((Surroundings.objects around name).all fun o => body.isScoped (o :: around)) &&
      rest.isScoped around

/-- Sections inside each other around one value. -/
def nest : List String → String → Line
  | [], name => .value [] name (.text [])
  | s :: ss, name => .nested [] s (nest ss name) (.text [])

lemma join_flatMap {α : Type} (f : α → List String) (as : List α) :
    String.join (as.flatMap f) = String.join (as.map fun a => String.join (f a)) := by
  induction as with
  | nil => rfl
  | cons a as ih =>
    rw [List.flatMap_cons, String.join_append, List.map_cons, String.join_cons, ih]

/-- A nest stands for the texts of its value, for all choices of objects, in order. -/
lemma meaning_nest (names : List String) (name : String) (around : Surroundings) :
    (nest names name).meaning around =
      String.join ((Surroundings.choices names around).map (Surroundings.textOf · name)) := by
  induction names generalizing around with
  | nil => simp [nest, meaning, Surroundings.choices]
  | cons s ss ih =>
    simp only [nest, meaning, Surroundings.choices, List.map_flatMap, join_flatMap, ih,
      String.ofList_nil, String.empty_append, String.append_empty]

end Line

/-! ### Environments -/

namespace Environment

/-- The current value of the environment is an object that has the values of the surroundings, and
none of the blocks around has names for its values. -/
structure Shows (e : Environment) (around : Surroundings) : Prop where
  unnamed : ∀ l ∈ e.layers, l.names = []
  current : ∃ entries,
    (∀ name, KeyMap.get? name entries = around.findSome? (KeyMap.get? name)) ∧
      ∀ names, (e.fromLayer e.layers.head? names).map Found.value =
        (walk names (.object entries)).map (·.getD .null)

variable {e : Environment} {around : Surroundings}

lemma shows_ofView (view : KeyMap Json) : (ofView (.object view)).Shows [view] where
  unnamed := by simp [ofView, Layer.whole]
  current := by
    refine ⟨view, fun name => ?_, fun names => ?_⟩
    · rw [List.findSome?_cons]
      cases KeyMap.get? name view <;> rfl
    change ((walk ([] ++ names) (.object view)).map _).map _ = _
    rw [List.nil_append]
    cases walk names (.object view) with
    | error reason => rfl
    | ok found => cases found <;> rfl

/-- A step of names leads to the value of the name. -/
lemma Shows.resolve (h : e.Shows around) (text name : String) :
    ∃ found, e.resolve ⟨text, [.name name]⟩ = .ok found ∧
      found.value = Surroundings.value around name := by
  obtain ⟨hunnamed, entries, hvalues, hcurrent⟩ := h
  have hbound : e.bound? name = none := by
    rw [bound?, List.findSome?_eq_none_iff]
    intro l hl
    rw [hunnamed l hl]
    rfl
  have hresolve : e.resolve ⟨text, [.name name]⟩ = e.fromLayer e.layers.head? [name] := by
    simp only [Environment.resolve, resolveSteps]
    simp [hbound, Reference.names]
  have hwalk : (walk [name] (.object entries)).map (·.getD .null) =
      .ok (Surroundings.value around name) := by
    rw [walk, hvalues, Surroundings.value]
    cases around.findSome? (KeyMap.get? name) <;> rfl
  rw [hresolve]
  have hfound := (hcurrent [name]).trans hwalk
  cases hlayer : e.fromLayer e.layers.head? [name] with
  | error reason => rw [hlayer] at hfound; cases hfound
  | ok found =>
    rw [hlayer] at hfound
    exact ⟨found, rfl, Except.ok.inj hfound⟩

/-- The current value is there, and with an object put over it the environment shows that object in
front. -/
lemma Shows.push (h : e.Shows around) : ∃ scope, e.current = .ok scope ∧
    ∀ entries, (KeyMap.keys entries).Nodup →
      (e.push (.ofValue (Rendering.overlay scope (.object entries)))).Shows
        (entries :: around) := by
  obtain ⟨hunnamed, outer, hvalues, hcurrent⟩ := h
  refine ⟨.object outer, hcurrent [], fun entries hnodup =>
    ⟨?_, outer.overlay entries, ?_, ?_⟩⟩
  · intro l hl
    rcases List.mem_cons.mp hl with rfl | hl
    · rfl
    · exact hunnamed l hl
  · intro name
    rw [KeyMap.get?_overlay hnodup, hvalues, List.findSome?_cons]
    cases KeyMap.get? name entries <;> rfl
  · intro names
    change ((walk names (.object (outer.overlay entries))).map _).map _ = _
    cases walk names (.object (outer.overlay entries)) <;> rfl

end Environment

/-! ### Rendering -/

namespace Rendering

/-- The step writes a text and leaves the expansion as it is. -/
def Writes (step : Rendering String) (text : String) : Prop :=
  ∀ s, ∃ s', step.run s = .ok (text, s') ∧ s'.expansion = s.expansion

lemma writes_pure (text : String) : Writes (pure text) text := fun s => ⟨s, rfl, rfl⟩

lemma writes_bind {first : Rendering String} {next : String → Rendering String}
    {text more : String} (h : Writes first text) (hnext : Writes (next text) more) :
    Writes (first >>= next) more := by
  intro s
  obtain ⟨s', hrun, hs'⟩ := h s
  obtain ⟨s'', hnext, hs''⟩ := hnext s'
  refine ⟨s'', ?_, hs''.trans hs'⟩
  rw [StateT.run_bind, hrun]
  exact hnext

lemma writes_lift_bind {α : Type} {r : Except String α} {a : α} (h : r = .ok a)
    {next : α → Rendering String} {text : String} (hnext : Writes (next a) text) :
    Writes ((liftM r : Rendering α) >>= next) text := by
  subst h
  exact hnext

lemma writes_append {first rest : Rendering String} {text more : String} (h : Writes first text)
    (hrest : Writes rest more) :
    Writes (do let text ← first; return text ++ (← rest)) (text ++ more) :=
  writes_bind h (writes_bind hrest (writes_pure _))

lemma writes_asContent {render : Place → Rendering String} {p : Place} {text : String}
    (h : Writes (render p) text) : Writes (asContent render p) text := by
  intro s
  exact h { s with current? := none }

/-- Content in one layer after the other writes its texts one after the other. -/
lemma writes_inLayers {content : Content} {p : Place} {α : Type} {as : List α}
    {layer : α → Layer} {text : α → String}
    (h : ∀ a ∈ as, Writes (content (p.push (layer a))) (text a)) :
    Writes (inLayers p content (as.map layer)) (String.join (as.map text)) := by
  induction as with
  | nil => exact writes_pure ""
  | cons a as ih =>
    obtain ⟨ha, has⟩ := List.forall_mem_cons.mp h
    rw [List.map_cons, List.map_cons, String.join_cons]
    exact writes_append ha (ih has)

lemma isFilled_of_objects {value : Json} (h : isOfObjects value = true) :
    isFilled value = true := by
  cases value with
  | object entries => rfl
  | array items => exact (Bool.and_eq_true _ _ ▸ h).1
  | _ => cases h

lemma sectionLayers_of_objects {value : Json} (h : isOfObjects value = true) (scope : Json) :
    sectionLayers scope value =
      some ((objectsOf value).map fun o => .ofValue (overlay scope (.object o))) := by
  cases value with
  | object entries => rfl
  | array items =>
    rw [isOfObjects, Bool.and_eq_true] at h
    have hitems := eq_map_objectsOf h.2
    rw [sectionLayers]
    conv_lhs => rw [hitems]
    rw [List.map_map]
    rfl
  | _ => cases h

section

variable {p : Place} {around : Surroundings} {name : String}

lemma runNamed_of_free (h : IsFreeName name) (i : Invocation)
    (content alternative? : Option Content) : runNamed p name i content alternative? = none := by
  rw [runNamed, h.function, h.helper]
  rfl

/-- A value is written as its text in the surroundings. -/
lemma writes_output (hshows : p.env.Shows around) (h : IsFreeName name) :
    Writes (output p (valueOf name)) (Surroundings.textOf around name) := by
  obtain ⟨found, hfound, hvalue⟩ := hshows.resolve name name
  have houtput : output p (valueOf name) =
      (liftM (p.env.resolve ⟨name, [.name name]⟩) >>= fun found =>
        pure (valueText found.value) : Rendering String) := by
    rw [output]
    change (pure name >>= _) = _
    rw [pure_bind, runNamed_of_free h]
    rfl
  rw [houtput, Surroundings.textOf, ← hvalue]
  exact writes_lift_bind hfound (writes_pure _)

/-- A section writes what its content writes with each object of its value in front. -/
lemma writes_block (hshows : p.env.Shows around) (h : IsFreeName name)
    (hobjects : isOfObjects (Surroundings.value around name) = true)
    (hnodup : ∀ o ∈ Surroundings.objects around name, (KeyMap.keys o).Nodup) {content : Content}
    {text : KeyMap Json → String}
    (hcontent : ∀ o ∈ Surroundings.objects around name, ∀ q : Place,
      q.env.Shows (o :: around) → Writes (content q) (text o)) :
    Writes (block p (sectionOf name) (some content) none)
      (String.join ((Surroundings.objects around name).map text)) := by
  obtain ⟨found, hfound, hvalue⟩ := hshows.resolve name name
  obtain ⟨scope, hcurrent, hpush⟩ := hshows.push
  have hblock : block p (sectionOf name) (some content) none =
      sectionBlock p name (some content) none := by
    rw [block]
    change (pure name >>= _) = _
    rw [pure_bind, runNamed_of_free h]
    rfl
  have hreference : Reference.ofName name = ⟨name, [.name name]⟩ := by
    rw [Reference.ofName, h.nameStep_eq]
  rw [hblock, sectionBlock, hreference]
  refine writes_lift_bind hfound ?_
  dsimp only
  rw [hvalue, if_pos (isFilled_of_objects hobjects)]
  refine writes_lift_bind hcurrent ?_
  rw [sectionLayers_of_objects hobjects]
  refine writes_inLayers fun o ho => hcontent o ho _ ?_
  exact hpush o (hnodup o ho)

end

variable {inserted : Place → Insertion → Rendering String}

lemma writes_textNodes {p : Place} {ns : List Node} {text : String}
    (h : Writes (nodes inserted p ns) text) (cs : List Char) :
    Writes (nodes inserted p (textNodes cs ++ ns)) (String.ofList cs ++ text) := by
  cases cs with
  | nil => exact h
  | cons c cs => exact writes_append (writes_pure _) h

/-- A line writes what it stands for. -/
lemma writes_line {l : Line} (hl : l.WellFormed) {around : Surroundings}
    (hscoped : l.isScoped around = true)
    (hdistinct : ∀ o ∈ around, (Json.object o).distinct = true) {p : Place}
    (hshows : p.env.Shows around) : Writes (nodes inserted p l.nodes) (l.meaning around) := by
  -- the body of a section is rendered in other places and other surroundings, one for each object
  induction l generalizing around p with
  | text cs =>
    have hnil : Writes (nodes inserted p []) "" := writes_pure ""
    have htext := writes_textNodes hnil cs
    rwa [List.append_nil, String.append_empty] at htext
  | value lead name rest ih =>
    obtain ⟨-, hname, hrest⟩ := hl
    rw [Line.nodes, Line.meaning, String.append_assoc]
    refine writes_textNodes ?_ lead
    exact writes_append (writes_output hshows hname.toIsFreeName)
      (ih hrest hscoped hdistinct hshows)
  | nested lead name body rest ihbody ihrest =>
    obtain ⟨-, hname, hbody, hrest⟩ := hl
    simp only [Line.isScoped, Bool.and_eq_true, List.all_eq_true] at hscoped
    obtain ⟨⟨hobjects, hscoped⟩, hscoped'⟩ := hscoped
    have hinside := Surroundings.distinct_objects hdistinct name
    have hnodup : ∀ o ∈ Surroundings.objects around name, (KeyMap.keys o).Nodup := by
      intro o ho
      have hentries := hinside o ho
      rw [Json.distinct, Bool.and_eq_true] at hentries
      exact of_decide_eq_true hentries.1
    rw [Line.nodes, Line.meaning, String.append_assoc]
    refine writes_textNodes ?_ lead
    refine writes_append (writes_block hshows hname hobjects hnodup fun o ho q hq => ?_)
      (ihrest hrest hscoped' hdistinct hshows)
    refine writes_asContent (ihbody hbody (hscoped o ho) ?_ hq)
    exact List.forall_mem_cons.mpr ⟨hinside o ho, hdistinct⟩

end Rendering

/-! ### Lines with sections -/

/-- A line is rendered to what it stands for, whatever is registered. -/
lemma render_line {l : Line} (hl : l.WellFormed) {view : KeyMap Json}
    (hview : (Json.object view).distinct = true) (hscoped : l.isScoped [view] = true)
    (registered? : String → Option (List Node)) (name? : Option String) (x : Expansion) :
    render registered? name? l.nodes (.object view) x = .ok (l.meaning [view], x) := by
  have hdistinct : ∀ o ∈ [view], (Json.object o).distinct = true := by simpa using hview
  have hwrites : Rendering.Writes
      (Rendering.nodes (Rendering.insertedWithin registered? Rendering.maxInsertions)
        ⟨.ofView (.object view), [], 0⟩ l.nodes) (l.meaning [view]) :=
    Rendering.writes_line hl hscoped hdistinct (Environment.shows_ofView view)
  obtain ⟨s, hrun, hs⟩ := hwrites ⟨x, [], name?⟩
  rw [StateT.run] at hrun
  rw [render, hrun]
  exact congrArg (fun x => Except.ok (l.meaning [view], x)) hs

/-- Rendered for a view, the line gives a text and nothing else happens; so it does after it was
registered. -/
def Line.Gives (l : Line) (s : Store) (view : KeyMap Json) (x : Expansion) (text : String) : Prop :=
  s.renderText (String.ofList l.source) (.object view) x = .ok (text, x) ∧
    ∀ name, ((s.register name (String.ofList l.source)).bind fun s' =>
      s'.render name (.object view) x) = .ok (text, x)

lemma Line.gives_meaning {l : Line} (hl : l.WellFormed) {view : KeyMap Json}
    (hview : (Json.object view).distinct = true) (hscoped : l.isScoped [view] = true) (s : Store)
    (x : Expansion) : l.Gives s view x (l.meaning [view]) := by
  constructor
  · rw [Store.renderText, Line.parse_source hl]
    split
    · next hnone =>
      rcases l.contains_source with ⟨cs, rfl⟩ | hbraces
      · rfl
      · rw [hbraces] at hnone
        cases hnone
    · have hrender : ((Except.ok l.nodes : Except String (List Node)).bind fun nodes =>
          render s.nodes? none nodes (.object view) x) = .ok (l.meaning [view], x) :=
        render_line hl hview hscoped s.nodes? none x
      rw [hrender]
  · intro name
    rw [Line.register_source hl]
    change Store.render (KeyMap.insert name ⟨l.nodes, []⟩ s) name (.object view) x = _
    have hnodes : Store.nodes? (KeyMap.insert name ⟨l.nodes, []⟩ s) name = some l.nodes := by
      rw [Store.nodes?, KeyMap.get?_insert_self]
      rfl
    rw [Store.render, hnodes]
    dsimp only
    rw [render_line hl hview hscoped]

lemma Line.wellFormed_nest {names : List String} {name : String}
    (hnames : ∀ n ∈ names, IsFreeName n) (hname : IsValueName name) :
    (nest names name).WellFormed := by
  induction names with
  | nil => exact ⟨isPlainText_nil, hname, isPlainText_nil⟩
  | cons n names ih =>
    obtain ⟨hn, hnames⟩ := List.forall_mem_cons.mp hnames
    exact ⟨isPlainText_nil, hn, ih hnames, isPlainText_nil⟩

/-- A nest of sections around a value gives the texts of the value for all choices of objects, in
order, each with the chosen objects over the view; a line in which sections, values and texts follow
each other gives what it stands for, so nothing of a section is left behind it. -/
theorem sections_overlay (s : Store) (x : Expansion) {view : KeyMap Json}
    (hview : (Json.object view).distinct = true) :
    (∀ names name, (∀ n ∈ names, IsFreeName n) → IsValueName name →
      (Line.nest names name).isScoped [view] = true →
      (Line.nest names name).Gives s view x (String.join
        ((Surroundings.choices names [view]).map (Surroundings.textOf · name)))) ∧
      ∀ l : Line, l.WellFormed → l.isScoped [view] = true →
        l.Gives s view x (l.meaning [view]) := by
  refine ⟨fun names name hnames hname hscoped => ?_, fun l hl hscoped => ?_⟩
  · rw [← Line.meaning_nest]
    exact Line.gives_meaning (Line.wellFormed_nest hnames hname) hview hscoped s x
  · exact Line.gives_meaning hl hview hscoped s x

/-- Two sections over arrays around a value, and a value behind a section. The first object of the
outer section has no value of its own for the name, the second of the inner one neither. -/
theorem sections_overlay_arrays :
    let view : KeyMap Json := [
      ("s", .array [.object [("t", .object [("x", .string "a")])],
        .object [("t", .array [.object [("x", .int 1)], .object [("y", .int 2)]]),
          ("x", .string "b")]]),
      ("x", .string "o")]
    let x := Expansion.ofRequest Request.standard .mysql []
    (Json.object view).distinct = true ∧
      Store.renderText []
        "\x7b\x7b#s\x7d\x7d\x7b\x7b#t\x7d\x7d\x7b\x7bx\x7d\x7d\x7b\x7b/t\x7d\x7d\x7b\x7b/s\x7d\x7d"
        (.object view) x = .ok ("a1b", x) ∧
      Store.renderText []
        "\x7b\x7b#s\x7d\x7d\x7b\x7bx\x7d\x7d,\x7b\x7b/s\x7d\x7d\x7b\x7bx\x7d\x7d"
        (.object view) x = .ok ("o,b,o", x) := by
  intro view x
  have hname : IsValueName "x" := ⟨by constructor <;> decide, by decide⟩
  have hs : IsFreeName "s" := by constructor <;> decide
  have ht : IsFreeName "t" := by constructor <;> decide
  have hcomma : IsPlainText [','] := by simp [IsPlainText, Piece.isLineEnd]
  have hview : (Json.object view).distinct = true := by decide
  obtain ⟨hnest, hline⟩ := sections_overlay [] x hview
  have hnested := (hnest ["s", "t"] "x" (by simp [hs, ht]) hname (by decide)).1
  have hbehind := (hline (.nested [] "s" (.value [] "x" (.text [','])) (.value [] "x" (.text [])))
    ⟨isPlainText_nil, hs, ⟨isPlainText_nil, hname, hcomma⟩, isPlainText_nil, hname,
      isPlainText_nil⟩ (by decide)).1
  refine ⟨hview, hnested.trans ?_, hbehind.trans ?_⟩
  · rfl
  · rfl

/-- A value whose name begins like the word for an alternative is read as one. -/
theorem sections_miss_alternative :
    let view : KeyMap Json := [("s", .object [("elsewhere", .string "a")])]
    let x := Expansion.ofRequest Request.standard .mysql []
    IsFreeName "s" ∧ IsFreeName "elsewhere" ∧
      (Line.nest ["s"] "elsewhere").isScoped [view] = true ∧
      String.join ((Surroundings.choices ["s"] [view]).map (Surroundings.textOf · "elsewhere")) =
        "a" ∧
      Store.renderText [] (String.ofList (Line.nest ["s"] "elsewhere").source) (.object view) x =
        .ok ("", x) := by
  intro view x
  have hbraces : Text.contains (String.ofList (Line.nest ["s"] "elsewhere").source) "\x7b\x7b" =
      true := rfl
  let nodes : List Node :=
    [.block (sectionOf "s") [] (some [.block (sectionOf "where") [] none])]
  have hparse : Node.parse (String.ofList (Line.nest ["s"] "elsewhere").source) = .ok nodes := by
    cbv
  have hrender : ((Except.ok nodes : Except String (List Node)).bind fun nodes =>
      render (Store.nodes? []) none nodes (.object view) x) = .ok ("", x) := rfl
  refine ⟨by constructor <;> decide, by constructor <;> decide, by decide, ?_, ?_⟩
  · rfl
  · rw [Store.renderText, hbraces, hparse, hrender]
    rfl

end Template

end QueryLoom

import QueryLoom.Proofs.QuotingDocument

/-!
# Quoted texts in documents

A document that reads a key only through markers that quote its text writes one literal between
fixed pieces, as long as the literal is quiet, and has letters or not. No other literals survive:
assignments and trimmings rewrite those that are not quiet, and conditions of a literal alone are
dropped if it has no letters.
-/

namespace QueryLoom.Markup

/-- A bag with a text under a key. -/
def bagWith (entries : KeyMap Json) (key text : String) : Json :=
  .object (entries.insert key (.string text))

/-- The text of a document for a bag. -/
def rendered (setting : Setting Unit) (ns : List Node) (bag : Json) : SqlResult String :=
  (render setting ns bag ()).value.map Prod.fst

/-- For all texts of one class a document writes their literals between fixed pieces, or it fails
in one way. -/
def Fixed (setting : Setting Unit) (ns : List Node) (entries : KeyMap Json) (key : String)
    (letters : Bool) : Prop :=
  ∃ r : SqlResult (List String), r ≠ .ok [] ∧
    ∀ text, IsLiteral letters (setting.dialect.quoteLiteral text).toList →
      rendered setting ns (bagWith entries key text)
        = r.map (setting.dialect.quoteLiteral text).intercalate

variable {namespaces : List String} {fragment? : String → Option (List Node)} {d : Dialect}
  {entries : KeyMap Json} {key : String} {letters : Bool}

lemma rendered_of_run {setting : Setting Unit} {ns : List Node} {bag : Json}
    {r : SqlResult String} {s' : Session Unit}
    (h : (Render.document setting ns).run ⟨Scope.ofBag bag, (), []⟩ = (r, s')) :
    rendered setting ns bag = r := by
  rw [rendered, render, h]
  cases r <;> rfl

/-! ### Fixed pieces -/

lemma includeWithin_uniform
    (hfragments : ∀ name nodes, fragment? name = some nodes → AllQuote key nodes) (room : Nat) :
    ∀ found : Render.Inclusion, AllQuote key found.nodes →
      Uniform entries key d letters (written d) fun _ =>
        Render.includeWithin (Setting.plain namespaces fragment? d) room found := by
  induction room with
  | zero => exact fun _ _ => Uniform.throw _
  | succ room ih =>
    intro found hfound
    exact Uniform.withFrame (nodes_uniform hfragments ih found.nodes hfound) found.frame

lemma document_uniform
    (hfragments : ∀ name nodes, fragment? name = some nodes → AllQuote key nodes) {ns : List Node}
    (hns : AllQuote key ns) :
    Uniform entries key d letters (written d) fun _ =>
      Render.document (Setting.plain namespaces fragment? d) ns :=
  nodes_uniform hfragments (includeWithin_uniform hfragments Render.maxIncludes) ns hns

/-- A skeleton that is written is its pieces with the literal between them. -/
lemma written_eq_intercalate (text : String) (sk : Skeleton) :
    written d text sk = (d.quoteLiteral text).intercalate ((pieces sk).map String.ofList) := by
  apply String.toList_inj.mp
  rw [toList_written, fill_eq_intercalate, String.toList_intercalate, List.map_map]
  simp [Function.comp_def]

lemma fixed_of_allQuote
    (hfragments : ∀ name nodes, fragment? name = some nodes → AllQuote key nodes)
    {ns : List Node} (hns : AllQuote key ns) (letters : Bool) :
    Fixed (Setting.plain namespaces fragment? d) ns entries key letters := by
  have huniform : Uniform entries key d letters (written d) fun _ =>
    Render.document (Setting.plain namespaces fragment? d) ns := document_uniform hfragments hns
  obtain ⟨r, s', hrun⟩ := huniform ⟨Scope.ofBag (.object entries), (), []⟩
  refine ⟨r.map fun sk => (pieces sk).map String.ofList, ?_, fun text hl => ?_⟩
  · cases r with
    | error e => exact nofun
    | ok sk =>
      intro hnil
      exact pieces_ne_nil sk (List.map_eq_nil_iff.mp (Except.ok.inj hnil))
  · rw [bagWith, rendered_of_run (hrun text hl)]
    cases r with
    | error e => rfl
    | ok sk => exact congrArg Except.ok (written_eq_intercalate text sk)

/-! ### Rewritten literals -/

section Elements

variable {setting : Setting Unit} {included : Render.Inclusion → Render Unit String}
  {name source text : String} {attributes : Attributes} {f : String → String}

lemma run_nodes_singleton {n : Node} {s s' : Session Unit}
    (h : (Render.node setting included n).run s = (.ok text, s')) :
    (Render.nodes setting included [n]).run s = (.ok text, s') := by
  rw [Render.nodes, Render.run_bind, h, Render.nodes]
  exact congrArg (fun t => (Except.ok t, s')) String.append_empty

lemma run_text {s : Session Unit} (hplain : Text.contains source "\x7b\x7b" = false)
    (hsource : substitute s.scope setting.dialect source = .ok text) :
    (Render.node setting included (.text source)).run s = (.ok text, s) := by
  rw [Render.node, Render.expand, if_neg (by simp [hplain])]
  change (substitute s.scope setting.dialect source, s) = _
  rw [hsource]

/-- What an element makes of a text of markers. -/
lemma rendered_element {bag : Json}
    (hnode : ∀ included, Render.node setting included (.element name attributes [.text source])
      = Render.nodes setting included [.text source] >>= fun s => pure (f s))
    (hplain : Text.contains source "\x7b\x7b" = false)
    (hsource : substitute (Scope.ofBag bag) setting.dialect source = .ok text) :
    rendered setting [.element name attributes [.text source]] bag = .ok (f text) := by
  have hrun : ∀ included,
      (Render.node setting included (.element name attributes [.text source])).run
        ⟨Scope.ofBag bag, (), []⟩ = (.ok (f text), ⟨Scope.ofBag bag, (), []⟩) := by
    intro included
    have htext : (Render.node setting included (.text source)).run ⟨Scope.ofBag bag, (), []⟩
        = (.ok text, ⟨Scope.ofBag bag, (), []⟩) := run_text hplain hsource
    rw [hnode, Render.run_bind, run_nodes_singleton htext]
    rfl
  exact rendered_of_run (run_nodes_singleton (hrun _))

end Elements

lemma value?_marker (entries : KeyMap Json) (text : String) :
    Segment.value? (Scope.ofBag (bagWith entries "k" text)) ['k'] = some (.string text) := by
  have hparse : Path.parse? (String.ofList (Segment.path ['k'])) = some [.key "k"] := by decide
  have hget : KeyMap.get? "k" (entries.insert "k" (.string text)) = some (.string text) :=
    KeyMap.get?_insert_self "k" _ entries
  have hlookup : (Scope.ofBag (bagWith entries "k" text)).lookup? [.key "k"]
      = some (.string text) := by
    change Path.walk? [.key "k"] (bagWith entries "k" text) = _
    simp [Path.walk?, Path.PathStep.follow?, bagWith, hget]
  rw [Segment.value?, if_neg (by decide), Scope.resolve?, hparse]
  simp only [Option.bind_some, Path.spellings, List.findSome?_cons, hlookup]

/-- The text under a key as a literal, after a letter or not. -/
lemma substitute_marker (entries : KeyMap Json) (d : Dialect) (text : String) :
    substitute (Scope.ofBag (bagWith entries "k" text)) d "#{k}" = .ok (d.quoteLiteral text) ∧
      substitute (Scope.ofBag (bagWith entries "k" text)) d "a#{k}"
        = .ok ("a" ++ d.quoteLiteral text) := by
  have hmarker : Segment.all "#{k}".toList = [.marker '#' ['k']] := by cbv
  have hafter : Segment.all "a#{k}".toList = [.plain 'a', .marker '#' ['k']] := by cbv
  have hvalue := value?_marker entries text
  constructor
  · simp only [substitute, hmarker]
    simp [Segment.write, Segment.unresolved?, hvalue, Segment.valueText, Segment.bareText]
  · simp only [substitute, hafter]
    simp [Segment.write, Segment.unresolved?, hvalue, Segment.valueText, Segment.bareText]

/-! ### Literals alone -/

lemma exists_quoteLiteral (d : Dialect) (text : String) :
    ∃ body, (d.quoteLiteral text).toList = '\'' :: (body ++ ['\'']) :=
  ⟨text.toList.flatMap d.literalChar, String.toList_ofList⟩

lemma trim_quoted {c : Char} (hc : Text.isBlank c = false) (body : List Char) :
    Text.trim (c :: (body ++ ['\''])) = c :: (body ++ ['\'']) := by
  have hstart : Text.trimStart (c :: (body ++ ['\''])) = c :: body ++ '\'' :: [] := by
    rw [Text.trimStart, List.dropWhile_cons, hc]
    rfl
  rw [Text.trim, hstart, Text.trimEnd_append]
  rfl

/-- No override is removed from a text that ends with a literal and has none in front. -/
lemma strip_quoted {t : Trimming} (ht : t.Quoteless) {c : Char} {body : List Char}
    (hc : Text.isBlank c = false)
    (hlead : t.leadOverrides.dropLeading (c :: (body ++ ['\''])) = c :: (body ++ ['\''])) :
    t.strip (c :: (body ++ ['\''])) = c :: (body ++ ['\'']) := by
  have htrim := trim_quoted hc body
  have hend : ∀ {o : Overrides}, o.Quoteless →
      o.dropTrailing none (c :: (body ++ ['\''])) = c :: (body ++ ['\'']) :=
    fun ho => Overrides.dropTrailing_append ho none (c :: body) []
  have hboth : (if t.leadAtEnd = true then
      Text.trim (t.leadOverrides.dropTrailing none (c :: (body ++ ['\''])))
      else c :: (body ++ ['\''])) = c :: (body ++ ['\'']) := by
    rw [hend ht.lead, htrim, ite_self]
  simp only [Trimming.strip, htrim, hlead, hboth, hend ht.tail]

/-- A trimming without attributes puts blanks around a text. -/
lemma apply_quoted {text : String} {body : List Char}
    (hbody : text.toList = '\'' :: (body ++ ['\''])) :
    ((Render.trimmingOf []).apply ("a" ++ text)).toList
      = [' ', 'a'] ++ '\'' :: (body ++ ['\'']) ++ [' '] := by
  have htext : ("a" ++ text).toList = 'a' :: ('\'' :: body ++ ['\'']) := by
    rw [String.toList_append, hbody]
    rfl
  have hquoteless : (Render.trimmingOf []).Quoteless :=
    ⟨Overrides.quoteless_ofText (by decide), Overrides.quoteless_ofText (by decide)⟩
  have hnone : (Render.trimmingOf []).leadOverrides = [] := by decide
  have hstrip : (Render.trimmingOf []).strip ('a' :: ('\'' :: body ++ ['\'']))
      = 'a' :: ('\'' :: body ++ ['\'']) := by
    refine strip_quoted hquoteless (by decide) ?_
    rw [hnone]
    rfl
  have hletter : ('a' :: ('\'' :: body ++ ['\''])).any Text.isAsciiLetter = true := rfl
  rw [Trimming.apply, htext, hstrip, hletter]
  simp [Render.trimmingOf, Attributes.getD, KeyMap.get?]

lemma tidyAssignments_quoted (body : List Char) :
    tidyAssignments ('\'' :: (body ++ ['\'']))
      = collapseCommas none ('\'' :: (body ++ ['\''])) := by
  have hcollapse : collapseCommas none ('\'' :: (body ++ ['\'']))
      = '\'' :: (collapseCommas none body ++ ['\'']) := by
    have hfront := collapseCommas_append none [] (body ++ ['\''])
    rwa [collapseCommas_append none body []] at hfront
  have hend := dropTrailingComma_append ('\'' :: collapseCommas none body) []
  rw [tidyAssignments, hcollapse]
  exact hend

/-- Commas around a literal and commas in it are mended on their own. -/
lemma mendWhere_quoted (cs body cs' : List Char) :
    mendWhere (cs ++ '\'' :: (body ++ ['\'']) ++ cs')
      = mendWhere cs ++ mendWhere ('\'' :: (body ++ ['\''])) ++ mendWhere cs' := by
  have hliteral : mendWhere ('\'' :: (body ++ ['\''])) = '\'' :: (mendWhere body ++ ['\'']) := by
    have hfront := mendWhere_append [] (body ++ ['\''])
    rwa [mendWhere_append body []] at hfront
  have hsplit : cs ++ '\'' :: (body ++ ['\'']) ++ cs' = cs ++ '\'' :: (body ++ '\'' :: cs') := by
    simp
  rw [hsplit, mendWhere_append, mendWhere_append, hliteral]
  simp

/-! ### Literals in elements -/

section Limits

variable (namespaces : List String) (fragment? : String → Option (List Node)) (d : Dialect)
  (entries : KeyMap Json) (text : String)

lemma rendered_assignments :
    rendered (Setting.plain namespaces fragment? d) [.element "set" [] [.text "#{k}"]]
      (bagWith entries "k" text)
      = .ok (" SET " ++ String.ofList (collapseCommas none (d.quoteLiteral text).toList)) := by
  have htag : Tag.ofName? "set" = some .assignments := by decide +kernel
  obtain ⟨body, hbody⟩ := exists_quoteLiteral d text
  have htidy := tidyAssignments_quoted body
  rw [← hbody] at htidy
  rw [← htidy]
  exact rendered_element (f := fun s => " SET " ++ String.ofList (tidyAssignments s.toList))
    (fun _ => by rw [Render.node, htag]) (by decide) (substitute_marker entries d text).1

example : rendered (Setting.plain [] (fun _ => none) .mysql)
    [.element "set" [] [.text "#{k}"]] (bagWith [] "k" "x,  y") = .ok " SET 'x,\ny'" := by
  rw [rendered_assignments]
  exact congrArg Except.ok (by decide)

lemma rendered_trim :
    rendered (Setting.plain namespaces fragment? d) [.element "trim" [] [.text "a#{k}"]]
      (bagWith entries "k" text)
      = .ok (" a" ++ String.ofList (mendWhere (d.quoteLiteral text).toList) ++ " ") := by
  have htag : Tag.ofName? "trim" = some .trim := by decide +kernel
  have hrendered : rendered (Setting.plain namespaces fragment? d)
      [.element "trim" [] [.text "a#{k}"]] (bagWith entries "k" text)
      = .ok (Render.trimBody [] ("a" ++ d.quoteLiteral text)) :=
    rendered_element (f := Render.trimBody []) (fun _ => by rw [Render.node, htag])
      (by decide) (substitute_marker entries d text).2
  obtain ⟨body, hbody⟩ := exists_quoteLiteral d text
  have hmend := mendWhere_quoted [' ', 'a'] body [' ']
  rw [mendWhere] at hmend
  rw [hrendered, Render.trimBody, apply_quoted hbody, hbody]
  apply congrArg Except.ok
  simp only [hmend]
  rw [String.ofList_append, String.ofList_append]
  rfl

lemma rendered_conditions :
    rendered (Setting.plain namespaces fragment? d) [.element "where" [] [.text "#{k}"]]
      (bagWith entries "k" text)
      = .ok (if (d.quoteLiteral text).toList.any Text.isAsciiLetter then
          " WHERE " ++ d.quoteLiteral text ++ " " else "") := by
  have htag : Tag.ofName? "where" = some .conditions := by decide +kernel
  have hrendered : rendered (Setting.plain namespaces fragment? d)
      [.element "where" [] [.text "#{k}"]] (bagWith entries "k" text)
      = .ok (Trimming.conditions.apply (d.quoteLiteral text)) :=
    rendered_element (f := Trimming.conditions.apply) (fun _ => by rw [Render.node, htag])
      (by decide) (substitute_marker entries d text).1
  obtain ⟨body, hbody⟩ := exists_quoteLiteral d text
  have hstrip := strip_quoted Trimming.quoteless_conditions (by decide)
    (Overrides.dropLeading_quote Trimming.quoteless_conditions.lead (body ++ ['\'']))
  rw [← hbody] at hstrip
  rw [hrendered, Trimming.apply, hstrip, String.ofList_toList]
  cases (d.quoteLiteral text).toList.any Text.isAsciiLetter with
  | true =>
    apply congrArg Except.ok
    apply String.toList_inj.mp
    simp [Trimming.conditions]
  | false => rfl

/-- Exactly the quiet literals are left alone by assignments and by trimmings. -/
lemma left_alone_iff :
    (rendered (Setting.plain namespaces fragment? d) [.element "set" [] [.text "#{k}"]]
        (bagWith entries "k" text) = .ok (" SET " ++ d.quoteLiteral text) ∧
      rendered (Setting.plain namespaces fragment? d) [.element "trim" [] [.text "a#{k}"]]
        (bagWith entries "k" text) = .ok (" a" ++ d.quoteLiteral text ++ " ")) ↔
      Quiet (d.quoteLiteral text).toList := by
  have hcancel : ∀ (lead tail : String) (cs : List Char),
      (Except.ok (lead ++ String.ofList cs ++ tail) : SqlResult String)
        = .ok (lead ++ d.quoteLiteral text ++ tail) ↔ cs = (d.quoteLiteral text).toList := by
    intro lead tail cs
    rw [Except.ok.injEq, ← String.toList_inj]
    simp
  have hset := hcancel " SET " "" (collapseCommas none (d.quoteLiteral text).toList)
  rw [String.append_empty, String.append_empty] at hset
  rw [rendered_assignments, rendered_trim, quiet_iff]
  exact and_congr hset (hcancel " a" " " _)

end Limits

/-! ### Documents without fixed pieces -/

/-- Two texts of a class that a document writes in different ways, and one of them not at all. -/
lemma not_fixed {setting : Setting Unit} {ns : List Node} {text text' u v : String}
    (hl : IsLiteral letters (setting.dialect.quoteLiteral text).toList)
    (hl' : IsLiteral letters (setting.dialect.quoteLiteral text').toList)
    (hu : rendered setting ns (bagWith entries key text) = .ok u)
    (hv : rendered setting ns (bagWith entries key text') = .ok v) (hne : u ≠ v)
    (hout : ¬ (setting.dialect.quoteLiteral text).toList <:+: u.toList) :
    ¬ Fixed setting ns entries key letters := by
  rintro ⟨r, hnil, hr⟩
  have h := hr text hl
  have h' := hr text' hl'
  rw [hu] at h
  rw [hv] at h'
  cases r with
  | error e => cases h
  | ok ps =>
    replace h := Except.ok.inj h
    replace h' := Except.ok.inj h'
    rcases ps with _ | ⟨p, _ | ⟨q, ps⟩⟩
    · exact hnil rfl
    · rw [String.intercalate_singleton] at h h'
      exact hne (h.trans h'.symm)
    · refine hout ⟨p.toList, ((setting.dialect.quoteLiteral text).intercalate (q :: ps)).toList, ?_⟩
      rw [h, String.intercalate_cons_cons]
      simp

lemma quoteLiteral_letter (d : Dialect) :
    d.quoteLiteral "a" = "'a'" ∧ d.quoteLiteral "b" = "'b'" := by
  cases d <;> decide

lemma isLiteral_letter (d : Dialect) :
    IsLiteral true (d.quoteLiteral "a").toList ∧ IsLiteral true (d.quoteLiteral "b").toList := by
  rw [(quoteLiteral_letter d).1, (quoteLiteral_letter d).2]
  exact ⟨⟨⟨['a'], rfl⟩, (quiet_iff _).mpr (by decide), by decide⟩,
    ⟨⟨['b'], rfl⟩, (quiet_iff _).mpr (by decide), by decide⟩⟩

/-- Removing a quote in front removes that of the literal. -/
lemma not_fixed_override (namespaces : List String) (fragment? : String → Option (List Node))
    (d : Dialect) (entries : KeyMap Json) :
    ¬ Fixed (Setting.plain namespaces fragment? d)
      [.element "trim" [("prefixOverrides", "'")] [.text "#{k}"]] entries "k" true := by
  have htag : Tag.ofName? "trim" = some .trim := by decide +kernel
  have hrendered : ∀ text, rendered (Setting.plain namespaces fragment? d)
      [.element "trim" [("prefixOverrides", "'")] [.text "#{k}"]] (bagWith entries "k" text)
      = .ok (Render.trimBody [("prefixOverrides", "'")] (d.quoteLiteral text)) := fun text =>
    rendered_element (f := Render.trimBody [("prefixOverrides", "'")])
      (fun _ => by rw [Render.node, htag]) (by decide) (substitute_marker entries d text).1
  obtain ⟨ha, hb⟩ := quoteLiteral_letter d
  refine not_fixed (u := " a' ") (v := " b' ") (isLiteral_letter d).1 (isLiteral_letter d).2
    ?_ ?_ (by decide) ?_
  · rw [hrendered, ha]
    exact congrArg Except.ok (by decide)
  · rw [hrendered, hb]
    exact congrArg Except.ok (by decide)
  · change ¬ (d.quoteLiteral "a").toList <:+: _
    rw [ha]
    decide

/-- The fragments of two literals. -/
def literalFragment? (name : String) : Option (List Node) :=
  if name = "n.'a'" then some [.text "x"] else if name = "n.'b'" then some [.text "y"] else none

/-- A fragment of one text is rendered under its frame. -/
lemma run_includeWithin {setting : Setting Unit} {room : Nat} {reference w : String}
    {frame : KeyMap Json} {s : Session Unit} (hplain : Text.contains w "\x7b\x7b" = false)
    (hw : ∀ sc, substitute sc setting.dialect w = .ok w) :
    (Render.includeWithin setting (room + 1) ⟨reference, frame, [.text w]⟩).run s = (.ok w, s) := by
  have hnodes : (Render.nodes setting (Render.includeWithin setting room) [.text w]).run
      { s with scope := s.scope.push frame } = (.ok w, { s with scope := s.scope.push frame }) :=
    run_nodes_singleton (run_text hplain (hw _))
  change (match (Render.nodes setting (Render.includeWithin setting room) [.text w]).run
      { s with scope := s.scope.push frame } with
    | (r, s') => (r, { s' with scope := s'.scope.pop })) = _
  rw [hnodes]
  rfl

lemma rendered_inclusion {setting : Setting Unit} {entries : KeyMap Json} {text w : String}
    (hnodes : (Render.fullNames setting.namespaces
      (Text.trimmed (setting.dialect.quoteLiteral text))).findSome? setting.fragment?
        = some [.text w])
    (hplain : Text.contains w "\x7b\x7b" = false)
    (hw : ∀ sc, substitute sc setting.dialect w = .ok w) :
    rendered setting [.element "include" [("refid", "#{k}")] []] (bagWith entries "k" text)
      = .ok w := by
  have htag : Tag.ofName? "include" = some .inclusion := by decide +kernel
  have hrefid : Attributes.required "include" [("refid", "#{k}")] "refid" = .ok "#{k}" := rfl
  have hfind := Render.run_findInclusion setting [] ⟨Scope.ofBag (bagWith entries "k" text), (), []⟩
    hrefid (substitute_marker entries setting.dialect text).1
  rw [hnodes] at hfind
  have hnode : ∀ room, (Render.node setting (Render.includeWithin setting (room + 1))
      (.element "include" [("refid", "#{k}")] [])).run
        ⟨Scope.ofBag (bagWith entries "k" text), (), []⟩
      = (.ok w, ⟨Scope.ofBag (bagWith entries "k" text), (), []⟩) := by
    intro room
    rw [Render.node, htag]
    dsimp only
    rw [Render.run_bind, hfind]
    exact run_includeWithin hplain hw
  exact rendered_of_run (run_nodes_singleton (hnode 15))

/-- A literal that names a fragment decides what is included. -/
lemma not_fixed_inclusion (d : Dialect) (entries : KeyMap Json) :
    ¬ Fixed (Setting.plain ["n"] literalFragment? d)
      [.element "include" [("refid", "#{k}")] []] entries "k" true := by
  have hx : Segment.all "x".toList = [.plain 'x'] := by cbv
  have hy : Segment.all "y".toList = [.plain 'y'] := by cbv
  obtain ⟨ha, hb⟩ := quoteLiteral_letter d
  refine not_fixed (u := "x") (v := "y") (isLiteral_letter d).1 (isLiteral_letter d).2
    (rendered_inclusion ?_ (by decide) fun sc => ?_)
    (rendered_inclusion ?_ (by decide) fun sc => ?_) (by decide) ?_
  · show (Render.fullNames ["n"] (Text.trimmed (d.quoteLiteral "a"))).findSome? literalFragment?
      = some [.text "x"]
    rw [ha, show Render.fullNames ["n"] (Text.trimmed "'a'") = ["n.'a'"] by decide]
    rfl
  · rw [substitute, hx]
    rfl
  · show (Render.fullNames ["n"] (Text.trimmed (d.quoteLiteral "b"))).findSome? literalFragment?
      = some [.text "y"]
    rw [hb, show Render.fullNames ["n"] (Text.trimmed "'b'") = ["n.'b'"] by decide]
    rfl
  · rw [substitute, hy]
    rfl
  · change ¬ (d.quoteLiteral "a").toList <:+: _
    rw [ha]
    decide

/-! ### Literals in documents -/

/-- If a document reads a key only through markers that quote its text, then it writes the literals
of all texts of one class between fixed pieces. The classes are as large as can be: only quiet
literals are left alone by assignments and trimmings, literals without letters are dropped from
conditions, and neither overrides with a quote nor references with a marker can be allowed. -/
theorem render_quoted (namespaces : List String) (fragment? : String → Option (List Node))
    (d : Dialect) (ns : List Node) (entries : KeyMap Json) (key : String)
    (hns : AllQuote key ns)
    (hfragments : ∀ name nodes, fragment? name = some nodes → AllQuote key nodes) :
    (∀ letters, Fixed (Setting.plain namespaces fragment? d) ns entries key letters) ∧
      (∀ text,
        (rendered (Setting.plain namespaces fragment? d) [.element "set" [] [.text "#{k}"]]
            (bagWith entries "k" text) = .ok (" SET " ++ d.quoteLiteral text) ∧
          rendered (Setting.plain namespaces fragment? d) [.element "trim" [] [.text "a#{k}"]]
            (bagWith entries "k" text) = .ok (" a" ++ d.quoteLiteral text ++ " ")) ↔
          Quiet (d.quoteLiteral text).toList) ∧
      (∀ text,
        rendered (Setting.plain namespaces fragment? d) [.element "where" [] [.text "#{k}"]]
          (bagWith entries "k" text)
          = .ok (if (d.quoteLiteral text).toList.any Text.isAsciiLetter then
              " WHERE " ++ d.quoteLiteral text ++ " " else "")) ∧
      ¬ Fixed (Setting.plain namespaces fragment? d)
        [.element "trim" [("prefixOverrides", "'")] [.text "#{k}"]] entries "k" true ∧
      ¬ Fixed (Setting.plain ["n"] literalFragment? d)
        [.element "include" [("refid", "#{k}")] []] entries "k" true := by
  refine ⟨fun letters => fixed_of_allQuote hfragments hns letters,
    fun text => left_alone_iff namespaces fragment? d entries text,
    fun text => rendered_conditions namespaces fragment? d entries text,
    not_fixed_override namespaces fragment? d entries, not_fixed_inclusion d entries⟩

/-- A condition on a key that is quoted, for each item of a collection. -/
def repeated : List Node :=
  [.element "where" [] [.element "foreach" [("collection", "ids")] [.text "or a = #{k}"]]]

lemma avoidsKey_ids : AvoidsKey "k" (Text.trimmed "ids") := by
  have hparse : Path.parse? (Text.trimmed "ids") = some [.key "ids"] := by decide
  have hspellings : ∀ spelling ∈ Path.spellings [.key "ids"], spelling = [.key "ids"] := by decide
  intro path hpath spelling hspelling
  rw [hparse] at hpath
  cases hpath
  exact ⟨.key "ids", [], hspellings spelling hspelling, by decide⟩

lemma allQuote_repeated : AllQuote "k" repeated := by
  have hloop : ElementAvoids "k" "foreach" [("collection", "ids")] := by
    have htag : Tag.ofName? "foreach" = some .loop := by decide +kernel
    have hcollection : KeyMap.get? "collection" [("collection", "ids")] = some "ids" := by decide
    simp only [ElementAvoids, htag, hcollection]
    rintro text ⟨rfl⟩
    exact avoidsKey_ids
  have hwhere : ElementAvoids "k" "where" [] := by
    have htag : Tag.ofName? "where" = some .conditions := by decide +kernel
    simp only [ElementAvoids, htag]
  have htext : TextQuotes "k" "or a = #{k}" := by
    have hall : Segment.all "or a = #{k}".toList
        = "or a = ".toList.map .plain ++ [.marker '#' ['k']] := by cbv
    rw [TextQuotes, hall]
    intro s hs
    rcases List.mem_append.mp hs with hplain | hmarker
    · obtain ⟨c, -, rfl⟩ := List.mem_map.mp hplain
      trivial
    · rw [List.mem_singleton.mp hmarker]
      exact .inr ⟨rfl, by decide⟩
  exact ⟨⟨hwhere, ⟨hloop, htext, trivial⟩, trivial⟩, trivial⟩

theorem render_quoted_repeated :
    AllQuote "k" repeated ∧
      Fixed (Setting.plain [] (fun _ => none) .mysql) repeated [("ids", .array [.int 1, .int 2])]
        "k" true ∧
      ¬ (rendered (Setting.plain [] (fun _ => none) .mysql) [.element "set" [] [.text "#{k}"]]
          (bagWith [("ids", .array [.int 1, .int 2])] "k" "x,  y") = .ok " SET 'x,  y'" ∧
        rendered (Setting.plain [] (fun _ => none) .mysql) [.element "trim" [] [.text "a#{k}"]]
          (bagWith [("ids", .array [.int 1, .int 2])] "k" "x,  y") = .ok " a'x,  y' ") := by
  obtain ⟨hfixed, hquiet, -⟩ := render_quoted [] (fun _ => none) .mysql repeated
    [("ids", .array [.int 1, .int 2])] "k" allQuote_repeated nofun
  have hloud : ¬ Quiet (Dialect.mysql.quoteLiteral "x,  y").toList := by
    rw [quiet_iff]
    decide
  exact ⟨allQuote_repeated, hfixed true, fun hboth => hloud ((hquiet "x,  y").mp hboth)⟩

end QueryLoom.Markup

import Mathlib.Algebra.GroupWithZero.Nat
import Mathlib.Data.List.Destutter
import QueryLoom.Markup.Marker

/-!
# Markers in one pass

The rule by which a text is cut into markers and the text between them, and what becomes of the
cut: with a value for every marker the values take the place of the markers and all else stays as
it is, otherwise the markers without a value are named. The rule allows one cut only, and no cut
goes through a character.
-/

namespace QueryLoom.Markup

namespace Segment

/-! ### The cut -/

/-- The characters that a marker may begin with. -/
def IsSigil (c : Char) : Prop := c = '#' ∨ c = '$'

/-- A marker stands at the start of a text: a sigil, and braces up to the first that closes. -/
def OpensMarker (cs : List Char) : Prop :=
  ∃ sigil inside rest, IsSigil sigil ∧ cs = sigil :: '{' :: (inside ++ '}' :: rest)

/-- A text is cut from left to right: into a marker where one stands, into a character where none
does. -/
inductive IsCut : List Segment → List Char → Prop where
  | nil : IsCut [] []
  | marker {sigil : Char} {inside rest : List Char} {ss : List Segment} (hsigil : IsSigil sigil)
      (hinside : '}' ∉ inside) (h : IsCut ss rest) :
      IsCut (.marker sigil inside :: ss) (sigil :: '{' :: (inside ++ '}' :: rest))
  | plain {c : Char} {cs : List Char} {ss : List Segment} (hc : ¬ OpensMarker (c :: cs))
      (h : IsCut ss cs) : IsCut (.plain c :: ss) (c :: cs)

lemma cutAt?_single {c : Char} {before : List Char} (hbefore : c ∉ before) (after : List Char) :
    Text.cutAt? [c] (before ++ c :: after) = some (before, after) := by
  induction before with
  | nil => simp [Text.cutAt?, Text.stripLead?]
  | cons d before ih =>
    obtain ⟨hd, hmore⟩ : c ≠ d ∧ c ∉ before := by simpa using hbefore
    simp [Text.cutAt?, Text.stripLead?, hd, ih hmore]

lemma notMem_of_cutAt?_single {c : Char} {cs before after : List Char}
    (h : Text.cutAt? [c] cs = some (before, after)) : c ∉ before := by
  induction cs generalizing before after with
  | nil => simp [Text.cutAt?] at h
  | cons d cs ih =>
    by_cases hd : c = d
    · simp only [Text.cutAt?, Text.stripLead?, hd, beq_self_eq_true, if_true] at h
      cases h
      simp
    · simp only [Text.cutAt?, Text.stripLead?, beq_iff_eq, hd, if_false] at h
      obtain ⟨⟨before', after'⟩, hcut, heq⟩ := Option.map_eq_some_iff.mp h
      cases heq
      simp [hd, ih hcut]

lemma marker?_eq_some {cs rest : List Char} {s : Segment} :
    marker? cs = some (s, rest) ↔
      ∃ sigil inside, IsSigil sigil ∧ '}' ∉ inside ∧ s = .marker sigil inside ∧
        cs = sigil :: '{' :: (inside ++ '}' :: rest) := by
  constructor
  · intro h
    unfold marker? at h
    split at h
    · next c cs =>
      split at h
      · next hc =>
        obtain ⟨⟨inside, after⟩, hcut, heq⟩ := Option.map_eq_some_iff.mp h
        cases heq
        refine ⟨c, inside, by simpa [IsSigil] using hc, notMem_of_cutAt?_single hcut, rfl, ?_⟩
        rw [eq_of_cutAt?_single hcut]
      · cases h
    · cases h
  · rintro ⟨sigil, inside, hsigil, hinside, rfl, rfl⟩
    have hcut := cutAt?_single hinside rest
    rcases hsigil with rfl | rfl <;> simp [marker?, hcut]

/-- Where no marker is read, none stands. -/
lemma not_opensMarker {cs : List Char} (h : marker? cs = none) : ¬ OpensMarker cs := by
  rintro ⟨sigil, inside, rest, hsigil, rfl⟩
  have hmem : '}' ∈ inside ++ '}' :: rest := by simp
  obtain ⟨before, after, hsplit, hbefore⟩ := List.eq_append_cons_of_mem hmem
  have hread : marker? (sigil :: '{' :: (inside ++ '}' :: rest))
      = some (.marker sigil before, after) :=
    marker?_eq_some.mpr ⟨sigil, before, hsigil, hbefore, rfl, by rw [hsplit]⟩
  rw [h] at hread
  cases hread

lemma isCut_all (cs : List Char) : IsCut (all cs) cs := by
  fun_induction all cs with
  | case1 => exact .nil
  | case2 c cs s rest h _ ih =>
    obtain ⟨sigil, inside, hsigil, hinside, rfl, hcs⟩ := marker?_eq_some.mp h
    rw [hcs]
    exact .marker hsigil hinside ih
  | case3 c cs h ih => exact .plain (not_opensMarker h) ih

lemma IsCut.eq_all {ss : List Segment} {cs : List Char} (h : IsCut ss cs) : ss = all cs := by
  induction h with
  | nil => rw [all]
  | @marker sigil inside rest ss hsigil hinside h ih =>
    have hread : marker? (sigil :: '{' :: (inside ++ '}' :: rest))
        = some (.marker sigil inside, rest) :=
      marker?_eq_some.mpr ⟨sigil, inside, hsigil, hinside, rfl, rfl⟩
    rw [all, ih]
    split <;> simp_all
  | @plain c cs ss hc h ih =>
    have hread : marker? (c :: cs) = none := by
      rw [Option.eq_none_iff_forall_ne_some]
      rintro ⟨s, rest⟩ hs
      obtain ⟨sigil, inside, hsigil, -, -, hcs⟩ := marker?_eq_some.mp hs
      exact hc ⟨sigil, inside, rest, hsigil, hcs⟩
    rw [all, ih]
    split <;> simp_all

/-! ### Values -/

/-- The path of a marker leads to a value: it is not empty, and the scope has something there. -/
def LeadsTo (scope : Scope) (inside : List Char) (value : Json) : Prop :=
  path inside ≠ [] ∧ scope.resolve? (String.ofList (path inside)) = some value

/-- A marker whose path is empty or leads nowhere. -/
def dangles (scope : Scope) : Segment → Bool
  | .plain _ => false
  | .marker _ inside =>
    (path inside).isEmpty || (scope.resolve? (String.ofList (path inside))).isNone

/-- A text with the values of a cut in the place of its markers; what is not in a marker stays. -/
inductive Replaced (scope : Scope) (d : Dialect) : List Segment → List Char → Prop where
  | nil : Replaced scope d [] []
  | plain (c : Char) {ss : List Segment} {out : List Char} (h : Replaced scope d ss out) :
      Replaced scope d (.plain c :: ss) (c :: out)
  | marker (sigil : Char) {inside : List Char} {value : Json} {ss : List Segment}
      {out : List Char} (hvalue : LeadsTo scope inside value) (h : Replaced scope d ss out) :
      Replaced scope d (.marker sigil inside :: ss) ((valueText d sigil value).toList ++ out)

/-- The markers of a cut that dangle, as they are written. -/
def missing (scope : Scope) (ss : List Segment) : List String :=
  (ss.filter (dangles scope)).map fun s => String.ofList s.source

lemma value?_eq_some {scope : Scope} {inside : List Char} {value : Json} :
    value? scope inside = some value ↔ LeadsTo scope inside value := by
  unfold value? LeadsTo
  split <;> simp_all

lemma dangles_marker {scope : Scope} {sigil : Char} {inside : List Char} :
    dangles scope (.marker sigil inside) = (value? scope inside).isNone := by
  rw [dangles, value?]
  cases (path inside).isEmpty <;> rfl

lemma dangles_marker_eq_false {scope : Scope} {sigil : Char} {inside : List Char} :
    dangles scope (.marker sigil inside) = false ↔ ∃ value, LeadsTo scope inside value := by
  rw [dangles_marker, Option.isNone_eq_false_iff, Option.isSome_iff_exists]
  simp only [value?_eq_some]

lemma filterMap_unresolved? (scope : Scope) (ss : List Segment) :
    ss.filterMap (unresolved? scope) = missing scope ss := by
  induction ss with
  | nil => rfl
  | cons s ss ih =>
    cases s with
    | plain c => exact ih
    | marker sigil inside =>
      rw [missing, List.filterMap_cons, List.filter_cons, dangles_marker, unresolved?]
      cases value? scope inside <;> simp [ih, missing]

lemma missing_eq_nil {scope : Scope} {ss : List Segment} :
    missing scope ss = [] ↔
      ∀ sigil inside, .marker sigil inside ∈ ss → ∃ value, LeadsTo scope inside value := by
  rw [missing, List.map_eq_nil_iff, List.filter_eq_nil_iff]
  constructor
  · intro h sigil inside hmem
    exact dangles_marker_eq_false.mp (Bool.eq_false_iff.mpr (h _ hmem))
  · intro h s hs
    cases s with
    | plain c => exact Bool.false_ne_true
    | marker sigil inside =>
      rw [dangles_marker_eq_false.mpr (h sigil inside hs)]
      exact Bool.false_ne_true

lemma toList_join_cons (s : String) (rest : List String) :
    (String.join (s :: rest)).toList = s.toList ++ (String.join rest).toList := by
  simp

lemma replaced_iff {scope : Scope} {d : Dialect} {ss : List Segment} {out : List Char} :
    Replaced scope d ss out ↔
      missing scope ss = [] ∧ out = (String.join (ss.map (write scope d))).toList := by
  constructor
  · intro h
    induction h with
    | nil => simp [missing]
    | plain c h ih =>
      obtain ⟨hmissing, rfl⟩ := ih
      refine ⟨hmissing, ?_⟩
      rw [List.map_cons, toList_join_cons, write, String.toList_singleton]
      rfl
    | @marker sigil inside value ss out hvalue h ih =>
      obtain ⟨hmissing, rfl⟩ := ih
      have hs : dangles scope (.marker sigil inside) = false :=
        dangles_marker_eq_false.mpr ⟨value, hvalue⟩
      refine ⟨by simpa [missing, hs] using hmissing, ?_⟩
      rw [List.map_cons, toList_join_cons, write, value?_eq_some.mpr hvalue]
  · rintro ⟨hmissing, rfl⟩
    rw [missing_eq_nil] at hmissing
    induction ss with
    | nil => exact .nil
    | cons s ss ih =>
      have hmore := ih fun sigil inside hmem => hmissing sigil inside (List.mem_cons_of_mem s hmem)
      rw [List.map_cons, toList_join_cons]
      cases s with
      | plain c =>
        rw [write, String.toList_singleton]
        exact .plain c hmore
      | marker sigil inside =>
        obtain ⟨value, hvalue⟩ := hmissing sigil inside List.mem_cons_self
        rw [write, value?_eq_some.mpr hvalue]
        exact .marker sigil hvalue hmore

/-! ### Repeats -/

lemma dropRepeats_eq (texts : List String) : dropRepeats texts = texts.destutter (· ≠ ·) := by
  fun_induction dropRepeats texts with
  | case1 => rfl
  | case2 => rfl
  | case3 s rest ih =>
    rw [ih, List.destutter_cons_cons, if_neg (by simp)]
    rfl
  | case4 s t rest hst ih =>
    rw [ih, List.destutter_cons_cons, if_pos hst]
    rfl

/-! ### Offsets -/

/-- How many bytes a text takes. -/
def byteLength (cs : List Char) : Nat := (cs.map Char.utf8Size).sum

/-- The byte offsets at which a pass from an offset on cuts: around a sigil and a brace, which take
one byte each, and the inside of a marker. -/
def offsets (pos : Nat) : List Segment → List Nat
  | [] => [pos]
  | .plain c :: ss =>
    if c = '#' ∨ c = '$' then pos :: offsets (pos + 1) ss else offsets (pos + c.utf8Size) ss
  | .marker _ inside :: ss =>
    let close := pos + 2 + byteLength inside
    pos :: (pos + 1) :: (pos + 2) :: close :: offsets (close + 1) ss

lemma byteLength_append (cs cs' : List Char) :
    byteLength (cs ++ cs') = byteLength cs + byteLength cs' := by
  simp [byteLength]

lemma utf8ByteSize_ofList (cs : List Char) :
    (String.ofList cs).utf8ByteSize = byteLength cs := by
  induction cs with
  | nil => rfl
  | cons c cs ih =>
    rw [← List.singleton_append, String.ofList_append, String.utf8ByteSize_append, ih,
      byteLength_append, ← String.singleton_eq_ofList, String.utf8ByteSize_singleton]
    rfl

/-- A text is cut in front of a character behind any of its beginnings. -/
lemma isValid_of_append {text : String} {before after : List Char}
    (h : text.toList = before ++ after) :
    String.Pos.Raw.IsValid text ⟨byteLength before⟩ := by
  refine String.Pos.Raw.isValid_iff_exists_append.mpr
    ⟨String.ofList before, String.ofList after, ?_, ?_⟩
  · rw [← String.ofList_append, ← h, String.ofList_toList]
  · rw [String.rawEndPos, utf8ByteSize_ofList]

lemma IsSigil.utf8Size_eq {c : Char} (h : IsSigil c) : c.utf8Size = 1 := by
  rcases h with rfl | rfl <;> rfl

/-- A pass cuts in front of characters only. -/
lemma IsCut.isValid_offsets {text : String} {ss : List Segment} {before cs : List Char}
    (h : IsCut ss cs) (htext : text.toList = before ++ cs) :
    ∀ n ∈ offsets (byteLength before) ss, String.Pos.Raw.IsValid text ⟨n⟩ := by
  induction h generalizing before with
  | nil =>
    intro n hn
    rw [List.mem_singleton.mp hn]
    exact isValid_of_append htext
  | @marker sigil inside rest ss hsigil hinside h ih =>
    have hvalid (more after : List Char)
        (hmore : sigil :: '\x7b' :: (inside ++ '\x7d' :: rest) = more ++ after) :
        String.Pos.Raw.IsValid text ⟨byteLength before + byteLength more⟩ := by
      have hsplit : text.toList = (before ++ more) ++ after := by
        rw [htext, hmore, List.append_assoc]
      rw [← byteLength_append]
      exact isValid_of_append hsplit
    have hone : byteLength [sigil] = 1 := hsigil.utf8Size_eq
    have htwo : byteLength [sigil, '\x7b'] = 2 := by
      rw [← List.singleton_append, byteLength_append, hone]
      rfl
    have hinside : byteLength (sigil :: '\x7b' :: inside) = 2 + byteLength inside := by
      rw [← htwo, ← byteLength_append]
      rfl
    have hall : byteLength (sigil :: '\x7b' :: (inside ++ ['\x7d']))
        = 2 + byteLength inside + 1 := by
      rw [← hinside]
      exact byteLength_append (sigil :: '\x7b' :: inside) ['\x7d']
    have hsplit : text.toList = (before ++ sigil :: '\x7b' :: (inside ++ ['\x7d'])) ++ rest := by
      simp [htext]
    have hrest := ih hsplit
    rw [byteLength_append, hall] at hrest
    refine List.forall_mem_cons.mpr ⟨isValid_of_append htext, List.forall_mem_cons.mpr ⟨?_,
      List.forall_mem_cons.mpr ⟨?_, List.forall_mem_cons.mpr ⟨?_, ?_⟩⟩⟩⟩
    · exact hone ▸ hvalid [sigil] _ rfl
    · exact htwo ▸ hvalid [sigil, '\x7b'] _ rfl
    · rw [Nat.add_assoc, ← hinside]
      exact hvalid (sigil :: '\x7b' :: inside) _ rfl
    · simpa only [Nat.add_assoc] using hrest
  | @plain c cs ss hc h ih =>
    have hsplit : text.toList = (before ++ [c]) ++ cs := by simp [htext]
    have hnext := ih hsplit
    rw [byteLength_append] at hnext
    rw [offsets]
    split
    · next hsigil =>
      have hsize : byteLength [c] = 1 := IsSigil.utf8Size_eq hsigil
      rw [hsize] at hnext
      exact List.forall_mem_cons.mpr ⟨isValid_of_append htext, hnext⟩
    · exact hnext

end Segment

lemma substitute_eq (scope : Scope) (d : Dialect) (text : String) :
    substitute scope d text =
      if Segment.missing scope (Segment.all text.toList) = [] then
        .ok (String.join ((Segment.all text.toList).map (Segment.write scope d)))
      else
        .error (.unconvertedParameter
          ((Segment.missing scope (Segment.all text.toList)).destutter (· ≠ ·))) := by
  simp only [substitute, Segment.filterMap_unresolved?, Segment.dropRepeats_eq,
    List.isEmpty_iff]

/-- A text has one cut into markers and other characters. Replacing its markers gives, exactly if
every marker has a value, the text with these values in the place of the markers; otherwise the
markers without a value are refused as they are written, in order and one of equal ones in a row.
The pass cuts in front of whole characters. -/
theorem substitute_one_pass (text : String) :
    ∃ ss, Segment.IsCut ss text.toList ∧ (∀ ss', Segment.IsCut ss' text.toList → ss' = ss) ∧
      (∀ n ∈ Segment.offsets 0 ss, String.Pos.Raw.IsValid text ⟨n⟩) ∧
      ∀ scope d,
        (∀ out, substitute scope d text = .ok out ↔ Segment.Replaced scope d ss out.toList) ∧
        ((∃ out, substitute scope d text = .ok out) ↔
          ∀ sigil inside, .marker sigil inside ∈ ss → ∃ value, Segment.LeadsTo scope inside value) ∧
        ∀ e, substitute scope d text = .error e ↔
          Segment.missing scope ss ≠ [] ∧
            e = .unconvertedParameter ((Segment.missing scope ss).destutter (· ≠ ·)) := by
  have hcut := Segment.isCut_all text.toList
  have hoffsets : ∀ n ∈ Segment.offsets 0 (Segment.all text.toList),
      String.Pos.Raw.IsValid text ⟨n⟩ := hcut.isValid_offsets (List.nil_append text.toList).symm
  refine ⟨Segment.all text.toList, hcut, fun ss' h => h.eq_all, hoffsets, fun scope d => ?_⟩
  rw [substitute_eq, ← Segment.missing_eq_nil]
  refine ⟨fun out => ?_, ?_, fun e => ?_⟩
  · rw [Segment.replaced_iff, String.toList_inj]
    split_ifs with h <;> simp [h, eq_comm]
  · split_ifs with h <;> simp [h]
  · split_ifs with h <;> simp [h, eq_comm]

/-- A value that looks like a marker stays as it is, and a marker that is repeated in a row is
named once. -/
theorem substitute_one_pass_repeated :
    substitute (Scope.ofBag (.object [("a", .string "#{b}"), ("b", .int 1)])) .mysql
        "é$#{a}#{a}${b}" = .ok "é$'#{b}''#{b}'1" ∧
      substitute (Scope.ofBag (.object [])) .mysql "é$#{a}#{a}${b}"
        = .error (.unconvertedParameter ["#{a}", "${b}"]) := by
  obtain ⟨ss, -, hunique, -, hpass⟩ := substitute_one_pass "é$#{a}#{a}${b}"
  have hall : Segment.all "é$#{a}#{a}${b}".toList
      = [.plain 'é', .plain '$', .marker '#' ['a'], .marker '#' ['a'], .marker '$' ['b']] := by cbv
  have hss := hunique _ (Segment.isCut_all _)
  rw [hall] at hss
  subst hss
  constructor
  · have ha : Segment.LeadsTo (Scope.ofBag (.object [("a", .string "#{b}"), ("b", .int 1)])) ['a']
        (.string "#{b}") := ⟨by decide, by rfl⟩
    have hb : Segment.LeadsTo (Scope.ofBag (.object [("a", .string "#{b}"), ("b", .int 1)])) ['b']
        (.int 1) := ⟨by decide, by rfl⟩
    exact ((hpass _ .mysql).1 _).mpr
      (.plain 'é' (.plain '$' (.marker '#' ha (.marker '#' ha (.marker '$' hb .nil)))))
  · exact ((hpass _ .mysql).2.2 _).mpr ⟨by decide, congrArg _ (by decide)⟩

end QueryLoom.Markup

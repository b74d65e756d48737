import QueryLoom.Proofs.Content
import QueryLoom.Proofs.Regions
import QueryLoom.Proofs.SameShape

/-!
# Binding named markers

SQL bound from a text has the content of the text's regions one after the other: that of a marker is
its value, and that of every other region is its own text. The values are found only to be pushed,
so how many there are for each marker is all that the SQL text shows of them.
-/

namespace QueryLoom.Binding

/-! ### Content of regions -/

/-- The names of the markers, in order and with repeats. -/
def markerNames (rs : List Region) : List (List Char) :=
  rs.filterMap fun
    | .verbatim _ => none
    | .marker name => some name

/-- The values that are bound for a value: an array has its items bound one by one. -/
def boundValues : Json → List Json
  | .array items => items
  | value => [value]

/-- The symbols in place of a value. -/
def valueContent : Json → List Symbol
  | .array items => Sql.listContent items
  | value => [.value value]

/-- The symbols in place of a region. -/
def Region.content (bag : Json) : Region → List Symbol
  | .verbatim text => text.map .char
  | .marker name => ((valueOf? bag name).map valueContent).getD []

/-- How many items an array has; nothing for other values. -/
def itemCount? : Json → Option Nat
  | .array items => some items.length
  | _ => none

lemma pushValue_extends (q : Sql) (value : Json) :
    Sql.Extends q (valueContent value) (pushValue q value) := by
  cases value with
  | array items => exact Sql.pushBindList_extends q items
  | _ => exact Sql.pushBind_extends q _

lemma pushRegion_extends (bag : Json) (q : Sql) (r : Region) :
    Sql.Extends q (r.content bag) (pushRegion bag q r) := by
  cases r with
  | verbatim text =>
    have h := Sql.push_extends q (String.ofList text)
    rwa [Symbol.ofText, String.toList_ofList] at h
  | marker name =>
    simp only [pushRegion, Region.content]
    cases valueOf? bag name with
    | none => exact .refl q
    | some value => exact pushValue_extends q value

lemma foldl_pushRegion_extends (bag : Json) (rs : List Region) (q : Sql) :
    Sql.Extends q (rs.flatMap (Region.content bag)) (rs.foldl (pushRegion bag) q) := by
  induction rs generalizing q with
  | nil => exact .refl q
  | cons r rs ih => exact (pushRegion_extends bag q r).trans (ih _)

/-! ### Values -/

lemma filterMap_listContent (values : List Json) :
    (Sql.listContent values).filterMap Symbol.value? = values := by
  cases values with
  | nil => exact Symbol.filterMap_ofText "NULL"
  | cons v vs =>
    have hitems : ∀ vs : List Json, (vs.flatMap fun v => Symbol.ofText ", " ++ [.value v]).filterMap
        Symbol.value? = vs := by
      intro vs
      induction vs with
      | nil => rfl
      | cons v vs ih =>
        rw [List.flatMap_cons, List.filterMap_append, List.filterMap_append, ih,
          Symbol.filterMap_ofText]
        rfl
    change ((Symbol.ofText ", ").intercalate ((v :: vs).map fun v => [.value v])).filterMap
      Symbol.value? = v :: vs
    rw [Sql.intercalate_cons_eq, List.filterMap_append, hitems]
    rfl

lemma filterMap_valueContent (value : Json) :
    (valueContent value).filterMap Symbol.value? = boundValues value := by
  cases value with
  | array items => exact filterMap_listContent items
  | _ => rfl

lemma filterMap_flatMap_content (bag : Json) (rs : List Region) :
    (rs.flatMap (Region.content bag)).filterMap Symbol.value?
      = (markerNames rs).flatMap fun name => (valueOf? bag name).toList.flatMap boundValues := by
  induction rs with
  | nil => rfl
  | cons r rs ih =>
    rw [List.flatMap_cons, List.filterMap_append, ih]
    cases r with
    | verbatim text =>
      have htext : (text.map Symbol.char).filterMap Symbol.value? = [] := by
        simp [List.filterMap_map, Function.comp_def, Symbol.value?]
      rw [Region.content, htext]
      rfl
    | marker name =>
      have hname : (Region.content bag (.marker name)).filterMap Symbol.value?
          = (valueOf? bag name).toList.flatMap boundValues := by
        cases h : valueOf? bag name with
        | none => simp [Region.content, h]
        | some value => simp [Region.content, h, filterMap_valueContent]
      rw [hname]
      rfl

/-! ### Missing values -/

lemma missing_eq (bag : Json) (rs : List Region) :
    missing bag rs = ((markerNames rs).filter fun name => (valueOf? bag name).isNone).map
      fun name => String.ofList (':' :: name) := by
  induction rs with
  | nil => rfl
  | cons r rs ih =>
    cases r with
    | verbatim text => exact ih
    | marker name =>
      simp only [missing, markerNames, List.filterMap_cons] at ih ⊢
      cases h : valueOf? bag name <;> simpa [h] using ih

lemma missing_eq_nil_iff (bag : Json) (rs : List Region) :
    missing bag rs = [] ↔ ∀ name ∈ markerNames rs, (valueOf? bag name).isSome = true := by
  simp [missing_eq, List.filter_eq_nil_iff, Option.isSome_iff_ne_none]

lemma bindSql_ok_iff {sql : String} {bag : Json} {d : Dialect} {q : Sql} :
    bindSql sql bag d = .ok q ↔ missing bag (regions d sql.toList) = [] ∧
      q = (regions d sql.toList).foldl (pushRegion bag) .empty := by
  simp only [bindSql, List.isEmpty_iff]
  split
  · next h => simp [h, eq_comm]
  · next h => simp [h]

lemma bindSql_error_iff {sql : String} {bag : Json} {d : Dialect} {e : SqlError} :
    bindSql sql bag d = .error e ↔ missing bag (regions d sql.toList) ≠ [] ∧
      e = .unconvertedParameter (missing bag (regions d sql.toList)) := by
  simp only [bindSql, List.isEmpty_iff]
  split
  · next h => simp [h]
  · next h => simp [h, eq_comm]

/-! ### Two bags -/

lemma pushValue_sameShape {p q : Sql} (h : p.SameShape q) {v w : Json}
    (hvw : itemCount? v = itemCount? w) : (pushValue p v).SameShape (pushValue q w) := by
  cases v with
  | array items =>
    cases w with
    | array items' => exact h.pushBindList (by simpa [itemCount?] using hvw)
    | _ => simp [itemCount?] at hvw
  | _ =>
    cases w with
    | array items' => simp [itemCount?] at hvw
    | _ => exact h.pushBind _ _

/-- The names have values in both bags, and arrays of one length in both or in neither. -/
def SameCounts (bag bag' : Json) (names : List (List Char)) : Prop :=
  ∀ name ∈ names, (valueOf? bag name).map itemCount? = (valueOf? bag' name).map itemCount?

lemma foldl_pushRegion_sameShape {bag bag' : Json} {rs : List Region}
    (hcounts : SameCounts bag bag' (markerNames rs)) {p q : Sql} (h : p.SameShape q) :
    (rs.foldl (pushRegion bag) p).SameShape (rs.foldl (pushRegion bag') q) := by
  induction rs generalizing p q with
  | nil => exact h
  | cons r rs ih =>
    cases r with
    | verbatim text => exact ih hcounts (h.push _)
    | marker name =>
      have hname := hcounts name List.mem_cons_self
      refine ih (fun other hother => hcounts other (List.mem_cons_of_mem name hother)) ?_
      simp only [pushRegion]
      cases hv : valueOf? bag name with
      | none =>
        have hw : valueOf? bag' name = none := by simpa [hv] using hname.symm
        rwa [hw]
      | some v =>
        cases hw : valueOf? bag' name with
        | none => simp [hv, hw] at hname
        | some w => exact pushValue_sameShape h (by simpa [hv, hw] using hname)

/-! ### The result -/

/-- The text has one cut into regions. The call succeeds exactly if every marker has a value, and
then the result has the content of the regions one after the other, and binds the values of the
markers in order. Otherwise it names the markers without a value, in order and with repeats. Values
of two bags that are both single, or both arrays of one length, give the same SQL text. -/
theorem bindSql_lossless (sql : String) (d : Dialect) :
    ∃ rs, IsCut d rs sql.toList ∧ (∀ rs', IsCut d rs' sql.toList → rs' = rs) ∧
      rs.flatMap Region.source = sql.toList ∧
      (∀ bag,
        ((∃ q, bindSql sql bag d = .ok q) ↔
          ∀ name ∈ markerNames rs, (valueOf? bag name).isSome = true) ∧
        (∀ q, bindSql sql bag d = .ok q →
          q.Aligned ∧ q.content = rs.flatMap (Region.content bag) ∧
          q.params = (markerNames rs).flatMap fun name =>
            (valueOf? bag name).toList.flatMap boundValues) ∧
        (∀ e, bindSql sql bag d = .error e →
          e = .unconvertedParameter
            (((markerNames rs).filter fun name => (valueOf? bag name).isNone).map
              fun name => String.ofList (':' :: name)))) ∧
      (∀ bag bag' q q', bindSql sql bag d = .ok q → bindSql sql bag' d = .ok q' →
        SameCounts bag bag' (markerNames rs) →
        ∀ d', (q.build d').SameText (q'.build d')) := by
  refine ⟨regions d sql.toList, isCut_regions d _, fun rs' h => (isCut_iff d rs' _).mp h,
    flatMap_source_regions d _, fun bag => ⟨?_, ?_, ?_⟩, ?_⟩
  · simp [bindSql_ok_iff, missing_eq_nil_iff]
  · intro q hq
    obtain ⟨-, rfl⟩ := bindSql_ok_iff.mp hq
    have hextends := foldl_pushRegion_extends bag (regions d sql.toList) .empty
    have haligned := hextends.aligned Sql.aligned_empty
    have hcontent := hextends.content Sql.aligned_empty
    rw [Sql.content_empty, List.nil_append] at hcontent
    refine ⟨haligned, hcontent, ?_⟩
    rw [haligned.params_eq, hcontent, filterMap_flatMap_content]
  · intro e he
    rw [← missing_eq]
    exact (bindSql_error_iff.mp he).2
  · intro bag bag' q q' hq hq' hcounts d'
    obtain ⟨-, rfl⟩ := bindSql_ok_iff.mp hq
    obtain ⟨-, rfl⟩ := bindSql_ok_iff.mp hq'
    exact (foldl_pushRegion_sameShape hcounts (.refl .empty)).build d'

/-- The dot after a marker is no part of its name. -/
theorem bindSql_lossless_trailing_dot :
    ∃ q q', bindSql ":v." (.object [("v", .int 1)]) .mysql = .ok q ∧
      bindSql ":v." (.object [("v", .null)]) .mysql = .ok q' ∧
      q.content = [.value (.int 1), .char '.'] ∧
      (q.build .postgres).SameText (q'.build .postgres) := by
  obtain ⟨rs, -, hunique, -, hbag, htwo⟩ := bindSql_lossless ":v." .mysql
  have hdot : Reads .mysql (.verbatim ['.']) [] := by
    refine .single ?_
    simp [IsOpening, IsQuote]
  have hcut : IsCut .mysql [.marker ['v'], .verbatim ['.']] [':', 'v', '.'] :=
    .cons (@Reads.marker .mysql 'v' [] ['.'] [] (by decide) (by simp) (by decide) (by simp)
      (by simp)) (.cons hdot .nil)
  obtain rfl := hunique _ hcut
  have hone : valueOf? (.object [("v", .int 1)]) ['v'] = some (.int 1) := rfl
  have hnull : valueOf? (.object [("v", .null)]) ['v'] = some .null := rfl
  have hnames : markerNames [.marker ['v'], .verbatim ['.']] = [['v']] := rfl
  obtain ⟨q, hq⟩ := (hbag (.object [("v", .int 1)])).1.mpr (by simp [hnames, hone])
  obtain ⟨q', hq'⟩ := (hbag (.object [("v", .null)])).1.mpr (by simp [hnames, hnull])
  refine ⟨q, q', hq, hq', ?_, htwo _ _ q q' hq hq' ?_ .postgres⟩
  · rw [((hbag _).2.1 q hq).2.1]
    simp [Region.content, hone, valueContent]
  · simp [SameCounts, hnames, hone, hnull, itemCount?]

end QueryLoom.Binding

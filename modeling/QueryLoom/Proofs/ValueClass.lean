import Mathlib.Data.List.Forall2
import QueryLoom.Batch.Record

/-!
# Classes of values

The batch operations look at a value only to see whether it is null, a text of blanks, or anything
else. Records with the same keys and values of the same classes therefore take part in a statement
with the same fields, and with values of the same classes again.
-/

namespace QueryLoom

/-! ### Results that agree -/

/-- Both results are errors, or both are values and these are related. -/
inductive Agree {α β : Type} (R : α → β → Prop) : SqlResult α → SqlResult β → Prop where
  | error (e e' : SqlError) : Agree R (.error e) (.error e')
  | ok {a : α} {b : β} (h : R a b) : Agree R (.ok a) (.ok b)

namespace Agree

variable {α β γ δ : Type} {R : α → β → Prop} {S : γ → δ → Prop}

lemma refl {S : α → α → Prop} (hS : ∀ a, S a a) (x : SqlResult α) : Agree S x x := by
  cases x with
  | error e => exact .error e e
  | ok a => exact .ok (hS a)

lemma bind {x : SqlResult α} {y : SqlResult β} {f : α → SqlResult γ} {g : β → SqlResult δ}
    (h : Agree R x y) (hfg : ∀ a b, R a b → Agree S (f a) (g b)) : Agree S (x >>= f) (y >>= g) := by
  cases h with
  | error e e' => exact .error e e'
  | ok hab => exact hfg _ _ hab

lemma bind_same {x : SqlResult α} {f : α → SqlResult γ} {g : α → SqlResult δ}
    (hfg : ∀ a, Agree S (f a) (g a)) : Agree S (x >>= f) (x >>= g) := by
  cases x with
  | error e => exact .error e e
  | ok a => exact hfg a

lemma map {x : SqlResult α} {y : SqlResult β} {f : α → γ} {g : β → δ}
    (h : Agree R x y) (hfg : ∀ a b, R a b → S (f a) (g b)) : Agree S (x.map f) (y.map g) := by
  cases h with
  | error e e' => exact .error e e'
  | ok hab => exact .ok (hfg _ _ hab)

lemma mapM {xs : List α} {ys : List β} {f : α → SqlResult γ} {g : β → SqlResult δ}
    (h : List.Forall₂ R xs ys) (hfg : ∀ a b, R a b → Agree S (f a) (g b)) :
    Agree (List.Forall₂ S) (xs.mapM f) (ys.mapM g) := by
  induction h with
  | nil => exact .ok .nil
  | cons hab _ ih =>
    simp only [List.mapM_cons]
    refine (hfg _ _ hab).bind fun c d hcd => ih.bind fun cs ds hrest => .ok (.cons hcd hrest)

lemma mapM_same {xs : List α} {f : α → SqlResult γ} {g : α → SqlResult δ}
    (hfg : ∀ a, Agree S (f a) (g a)) : Agree (List.Forall₂ S) (xs.mapM f) (xs.mapM g) := by
  have hxs : List.Forall₂ Eq xs xs := List.forall₂_same.mpr fun _ _ => rfl
  exact mapM hxs fun a b hab => hab ▸ hfg a

end Agree

namespace Batch

/-! ### Values -/

/-- What the batch operations see of a value. -/
inductive ValueClass where
  | null
  /-- A text of blanks. -/
  | blank
  | other
  deriving DecidableEq, Repr

/-- The class of a value. -/
def classOf (value : Json) : ValueClass :=
  if value.isNull then .null else if isBlankValue value then .blank else .other

/-- The values have the same class. -/
def SameClass (v w : Json) : Prop := classOf v = classOf w

lemma SameClass.refl (v : Json) : SameClass v v := rfl

lemma isNull_eq (v : Json) : v.isNull = decide (classOf v = .null) := by
  unfold classOf
  split_ifs with hnull hblank <;> simp [hnull]

lemma isBlankValue_eq (v : Json) : isBlankValue v = decide (classOf v = .blank) := by
  cases v with
  | string s =>
    by_cases h : Text.isBlankText s = true <;> simp [classOf, isBlankValue, Json.isNull, h]
  | _ => simp [classOf, isBlankValue, Json.isNull]

lemma SameClass.isNull {v w : Json} (h : SameClass v w) : v.isNull = w.isNull := by
  rw [isNull_eq, isNull_eq, h]

lemma SameClass.isBlankValue {v w : Json} (h : SameClass v w) :
    isBlankValue v = isBlankValue w := by
  rw [isBlankValue_eq, isBlankValue_eq, h]

/-- Optional values of the same class. -/
abbrev SameOption : Option Json → Option Json → Prop := Option.Rel SameClass

lemma SameOption.refl (v? : Option Json) : SameOption v? v? := by
  cases v? with
  | none => exact .none
  | some v => exact .some (.refl v)

lemma SameOption.isSome {v? w? : Option Json} (h : SameOption v? w?) : v?.isSome = w?.isSome := by
  cases h <;> rfl

lemma SameOption.getD {v? w? : Option Json} (h : SameOption v? w?) (d : Json) :
    SameClass (v?.getD d) (w?.getD d) := by
  cases h with
  | some h => exact h
  | none => exact .refl d

lemma SameOption.isGiven {v? w? : Option Json} (h : SameOption v? w?) :
    isGiven v? = isGiven w? := by
  cases h with
  | some h => simp [Batch.isGiven, h.isNull, h.isBlankValue]
  | none => rfl

lemma SameOption.map_default {v? w? : Option Json} (h : SameOption v? w?) (default? : Option Json) :
    SameOption (v?.map default?.getD) (w?.map default?.getD) := by
  cases h with
  | none => exact .none
  | some h =>
    cases default? with
    | none => exact .some h
    | some d => exact .some (.refl d)

/-! ### Records -/

/-- The records have the same keys, and values of the same classes under them. -/
def AlikeRecords (r s : Record) : Prop :=
  List.Forall₂ (fun x y => x.1 = y.1 ∧ SameClass x.2 y.2) r s

lemma AlikeRecords.keys {r s : Record} (h : AlikeRecords r s) : r.keys = s.keys := by
  induction h with
  | nil => rfl
  | cons hxy _ ih => exact congrArg₂ List.cons hxy.1 ih

lemma AlikeRecords.get? {r s : Record} (h : AlikeRecords r s) (key : String) :
    SameOption (r.get? key) (s.get? key) := by
  induction h with
  | nil => exact .none
  | @cons x y r s hxy _ ih =>
    obtain ⟨k, v⟩ := x
    obtain ⟨l, w⟩ := y
    obtain ⟨rfl, hvw⟩ := hxy
    simp only [KeyMap.get?]
    split
    · exact .some hvw
    · exact ih

lemma AlikeRecords.has {r s : Record} (h : AlikeRecords r s) (key : String) :
    r.has key = s.has key := (h.get? key).isSome

lemma AlikeRecords.insert {r s : Record} (h : AlikeRecords r s) (key : String) {v w : Json}
    (hvw : SameClass v w) : AlikeRecords (r.insert key v) (s.insert key w) := by
  induction h with
  | nil => exact .cons ⟨rfl, hvw⟩ .nil
  | @cons x y r s hxy hrs ih =>
    obtain ⟨k, a⟩ := x
    obtain ⟨l, b⟩ := y
    obtain ⟨rfl, hab⟩ := hxy
    simp only [KeyMap.insert]
    split_ifs with heq hlt
    · exact .cons ⟨rfl, hvw⟩ hrs
    · exact .cons ⟨rfl, hvw⟩ (.cons ⟨rfl, hab⟩ hrs)
    · exact .cons ⟨rfl, hab⟩ ih

/-! ### Participation -/

lemma changedValue?_same {r s : Record} (h : AlikeRecords r s) (policy : SkipPolicy) (f : Field) :
    SameOption (changedValue? policy r f) (changedValue? policy s f) := by
  have hget := h.get? f.name
  simp only [changedValue?]
  generalize r.get? f.name = v? at hget ⊢
  generalize s.get? f.name = w? at hget ⊢
  cases hget with
  | none => exact .refl _
  | some hvw =>
    simp only [hvw.isNull, hvw.isBlankValue]
    split_ifs with hnull hskip hblank hskip
    · exact .none
    · exact .some (.refl _)
    · exact .none
    · exact .some (.refl _)
    · exact .some hvw

lemma insertedValue?_same {r s : Record} (h : AlikeRecords r s) (policy : SkipPolicy) (f : Field) :
    SameOption (insertedValue? policy r f) (insertedValue? policy s f) := by
  have hget := h.get? f.name
  simp only [insertedValue?, hget.isGiven]
  split_ifs with hgen hgiven hgiven
  · exact .some (hget.getD _)
  · exact .some (.refl _)
  · exact hget
  · exact (changedValue?_same h policy f).map_default f.default?

/-! ### Addressed rows -/

/-- The targets address as many rows, by values of the same classes. -/
inductive AlikeTargets : Target → Target → Prop where
  | ids {ids ids' : List Json} (h : List.Forall₂ SameClass ids ids') :
      AlikeTargets (.ids ids) (.ids ids')
  | records {rs ss : List Record} (h : List.Forall₂ AlikeRecords rs ss) :
      AlikeTargets (.records rs) (.records ss)

lemma targetRecords_agree (e : Entity) {t u : Target} (h : AlikeTargets t u) :
    Agree (List.Forall₂ AlikeRecords) (targetRecords e t) (targetRecords e u) := by
  cases h with
  | ids h =>
    simp only [targetRecords]
    split
    · next key _ =>
      refine .ok ?_
      rw [List.forall₂_map_left_iff, List.forall₂_map_right_iff]
      exact h.imp fun v w hvw => .cons ⟨rfl, hvw⟩ .nil
    · exact .error _ _
  | records h => exact .ok h

lemma unknownName?_eq (e : Entity) {r s : Record} (h : AlikeRecords r s) :
    unknownName? e r = unknownName? e s := by
  simp only [unknownName?, h.keys]

lemma recordFields_eq (e : Entity) {r s : Record} (h : AlikeRecords r s) :
    recordFields e r = recordFields e s := by
  simp only [recordFields, h.has]

lemma predicateFields_agree (e : Entity) {r s : Record} (h : AlikeRecords r s) :
    Agree Eq (predicateFields e r) (predicateFields e s) := by
  simp only [predicateFields, unknownName?_eq e h, recordFields_eq e h]
  exact .refl (fun _ => rfl) _

/-- Lists that are related item by item are cut at the same places. -/
lemma forall₂_chunks {α β : Type} {R : α → β → Prop} (size : Nat) {xs : List α} {ys : List β}
    (h : List.Forall₂ R xs ys) :
    List.Forall₂ (List.Forall₂ R) (chunks size xs) (chunks size ys) := by
  induction xs using chunks.induct size generalizing ys with
  | case1 =>
    cases h
    simp
  | case2 x xs ih =>
    cases h with
    | cons hxy hrest =>
      rw [chunks, chunks]
      exact .cons (.cons hxy (List.forall₂_take (size - 1) hrest))
        (ih (List.forall₂_drop (size - 1) hrest))

end Batch

end QueryLoom

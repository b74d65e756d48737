import QueryLoom.Batch.Step
import QueryLoom.Proofs.ValueClass

/-!
# Statements of the same shape

Two pieces of SQL have the same shape if they have the same parts and as many values, so that they
differ in nothing but the values they bind. A step of a plan keeps its shape as long as its fields
stay and the values that are matched stay null or stay given.
-/

namespace QueryLoom

namespace Sql

/-- The same text with the same places, for as many values. -/
structure SameShape (p q : Sql) : Prop where
  parts : p.parts = q.parts
  params : p.params.length = q.params.length

namespace SameShape

lemma refl (p : Sql) : SameShape p p := ⟨rfl, rfl⟩

lemma push {p q : Sql} (h : SameShape p q) (s : String) : SameShape (p.push s) (q.push s) := by
  unfold Sql.push
  split
  · exact h
  · exact ⟨by simp only [h.parts], h.params⟩

lemma pushBind {p q : Sql} (h : SameShape p q) (v w : Json) :
    SameShape (p.pushBind v) (q.pushBind w) :=
  ⟨by simp only [Sql.pushBind, h.parts], by simp only [Sql.pushBind, List.length_append, h.params,
    List.length_singleton]⟩

lemma append {p q p' q' : Sql} (h : SameShape p q) (h' : SameShape p' q') :
    SameShape (p ++ p') (q ++ q') where
  parts := congrArg₂ (· ++ ·) h.parts h'.parts
  params := by
    change (p.params ++ p'.params).length = (q.params ++ q'.params).length
    rw [List.length_append, List.length_append, h.params, h'.params]

lemma bind (v w : Json) : SameShape (Sql.bind v) (Sql.bind w) := ⟨rfl, rfl⟩

lemma foldl {α β : Type} {R : α → β → Prop} {f : Sql → α → Sql} {g : Sql → β → Sql}
    (hfg : ∀ p q a b, SameShape p q → R a b → SameShape (f p a) (g q b)) {xs : List α}
    {ys : List β} (hxs : List.Forall₂ R xs ys) {p q : Sql} (h : SameShape p q) :
    SameShape (xs.foldl f p) (ys.foldl g q) := by
  induction hxs generalizing p q with
  | nil => exact h
  | cons hab _ ih => exact ih (hfg _ _ _ _ h hab)

lemma pushJoined {α β : Type} {R : α → β → Prop} {f : Sql → α → Sql} {g : Sql → β → Sql}
    (hfg : ∀ p q a b, SameShape p q → R a b → SameShape (f p a) (g q b)) {xs : List α}
    {ys : List β} (hxs : List.Forall₂ R xs ys) (sep : String) {p q : Sql} (h : SameShape p q) :
    SameShape (p.pushJoined xs sep f) (q.pushJoined ys sep g) := by
  cases hxs with
  | nil => exact h
  | cons hab hrest =>
    refine foldl (R := R) (fun p q a b h hab => ?_) hrest (hfg _ _ _ _ h hab)
    exact hfg _ _ a b (h.push sep) hab

lemma joined {ps qs : List Sql} (h : List.Forall₂ SameShape ps qs) (sep : String) :
    SameShape (Sql.joined sep ps) (Sql.joined sep qs) :=
  pushJoined (R := SameShape) (fun _ _ _ _ h hab => append h hab) h sep (.refl _)

lemma concat {ps qs : List Sql} (h : List.Forall₂ SameShape ps qs) :
    SameShape (Sql.concat ps) (Sql.concat qs) := by
  induction h with
  | nil => exact .refl _
  | cons hpq _ ih => exact hpq.append ih

/-- The joined images of related lists. -/
lemma joined_map {α β : Type} {R : α → β → Prop} {f : α → Sql} {g : β → Sql}
    (hfg : ∀ a b, R a b → SameShape (f a) (g b)) {xs : List α} {ys : List β}
    (h : List.Forall₂ R xs ys) (sep : String) :
    SameShape (Sql.joined sep (xs.map f)) (Sql.joined sep (ys.map g)) := by
  refine joined ?_ sep
  rw [List.forall₂_map_left_iff, List.forall₂_map_right_iff]
  exact h.imp fun a b => hfg a b

lemma pushBindList {p q : Sql} (h : SameShape p q) {vs ws : List Json}
    (hlength : vs.length = ws.length) : SameShape (p.pushBindList vs) (q.pushBindList ws) := by
  have hall : List.Forall₂ (fun _ _ : Json => True) vs ws :=
    List.forall₂_iff_zip.mpr ⟨hlength, fun _ => trivial⟩
  cases hall with
  | nil => exact h.push "NULL"
  | cons _ hrest =>
    refine foldl (fun p q v w h hvw => ?_) hrest (h.pushBind _ _)
    exact (h.push ", ").pushBind v w

lemma bindList {vs ws : List Json} (h : vs.length = ws.length) :
    SameShape (Sql.bindList vs) (Sql.bindList ws) := pushBindList (.refl empty) h

end SameShape

end Sql

/-- The statements have the same text and as many values. -/
def Statement.SameText (s t : Statement) : Prop :=
  s.sql = t.sql ∧ s.params.length = t.params.length

lemma Sql.SameShape.build {p q : Sql} (h : p.SameShape q) (d : Dialect) :
    (p.build d).SameText (q.build d) :=
  ⟨by simp only [Sql.build, Sql.render, h.parts], h.params⟩

/-! ### Parts of steps -/

/-- Both cells hold a value, or both have the same generator. -/
inductive Cell.Alike : Cell → Cell → Prop where
  | value (v w : Json) : Alike (.value v) (.value w)
  | generated (g : KeyGenerator) : Alike (.generated g) (.generated g)

/-- The same field is matched, with values of the same class. -/
structure Match.Alike (m n : Match) : Prop where
  field : m.field = n.field
  value : Batch.SameClass m.value n.value

lemma Cell.Alike.toSql {a b : Cell} (h : a.Alike b) (d : Dialect) :
    (a.toSql d).SameShape (b.toSql d) := by
  cases h with
  | value v w => exact .bind v w
  | generated g => exact .refl _

lemma rowSql_sameShape (d : Dialect) {row row' : List Cell} (h : List.Forall₂ Cell.Alike row row') :
    (rowSql d row).SameShape (rowSql d row') :=
  .joined_map (fun _ _ h => h.toSql d) h ", "

lemma valuesSql_sameShape (d : Dialect) {rows rows' : List (List Cell)}
    (h : List.Forall₂ (List.Forall₂ Cell.Alike) rows rows') :
    (valuesSql d rows).SameShape (valuesSql d rows') := by
  refine (Sql.SameShape.refl _).append (.joined_map (fun row row' hrow => ?_) h ", ")
  exact ((Sql.SameShape.refl _).append (rowSql_sameShape d hrow)).append (.refl _)

lemma Match.Alike.equalSql {m n : Match} (h : m.Alike n) (d : Dialect) :
    (m.equalSql d).SameShape (n.equalSql d) := by
  rw [Match.equalSql, Match.equalSql, h.field]
  exact (Sql.SameShape.refl _).append (.bind _ _)

lemma Match.Alike.toSql {m n : Match} (h : m.Alike n) (d : Dialect) (qualifier : String) :
    (m.toSql d qualifier).SameShape (n.toSql d qualifier) := by
  rw [Match.toSql, Match.toSql, h.field, h.value.isNull]
  split
  · exact .refl _
  · exact (Sql.SameShape.refl _).append (.bind _ _)

lemma keySql_sameShape (d : Dialect) {key key' : List Match}
    (h : List.Forall₂ Match.Alike key key') : (keySql d key).SameShape (keySql d key') :=
  .joined_map (fun _ _ h => h.equalSql d) h " AND "

lemma groupSql_sameShape (d : Dialect) (qualifier : String) {group group' : List Match}
    (h : List.Forall₂ Match.Alike group group') :
    (groupSql d qualifier group).SameShape (groupSql d qualifier group') :=
  .joined_map (fun _ _ h => h.toSql d qualifier) h " AND "

/-- The same column is assigned, in as many arms and by keys that are alike. -/
structure Assignment.Alike (a b : Assignment) : Prop where
  field : a.field = b.field
  arms : List.Forall₂ (fun x y => List.Forall₂ Match.Alike x.1 y.1) a.arms b.arms

lemma Assignment.Alike.toSql {a b : Assignment} (h : a.Alike b) (d : Dialect) :
    (a.toSql d).SameShape (b.toSql d) := by
  rw [Assignment.toSql, Assignment.toSql, h.field]
  refine ((Sql.SameShape.refl _).append (.concat ?_)).append (.refl _)
  rw [List.forall₂_map_left_iff, List.forall₂_map_right_iff]
  refine h.arms.imp fun x y hxy => ?_
  exact (((Sql.SameShape.refl _).append (keySql_sameShape d hxy)).append (.refl _)).append
    (.bind _ _)

lemma keyedRowsSql_sameShape (d : Dialect) (keys : List Field) {rows rows' : List (List Match)}
    (h : List.Forall₂ (List.Forall₂ Match.Alike) rows rows') :
    (keyedRowsSql d keys rows).SameShape (keyedRowsSql d keys rows') := by
  unfold keyedRowsSql
  split
  · have hlength : (rows.flatMap fun row => row.map (·.value)).length
        = (rows'.flatMap fun row => row.map (·.value)).length := by
      induction h with
      | nil => rfl
      | cons hrow _ ih => simp [ih, hrow.length_eq]
    exact ((Sql.SameShape.refl _).append (.bindList hlength)).append (.refl _)
  · refine .joined_map (fun row row' hrow => ?_) h " OR "
    exact ((Sql.SameShape.refl _).append (keySql_sameShape d hrow)).append (.refl _)

/-! ### Steps -/

/-- In every dialect the steps have the same text and as many values. -/
def Step.SameShape (s t : Step) : Prop := ∀ d, (s.toSql d).SameShape (t.toSql d)

namespace Step.SameShape

lemma refl (s : Step) : SameShape s s := fun d => .refl (s.toSql d)

lemma insert (e : Entity) (columns : List Field) {rows rows' : List (List Cell)}
    (h : List.Forall₂ (List.Forall₂ Cell.Alike) rows rows') :
    SameShape (.insert e columns rows) (.insert e columns rows') :=
  fun d => (Sql.SameShape.refl _).append (valuesSql_sameShape d h)

lemma replace (e : Entity) (columns : List Field) {rows rows' : List (List Cell)}
    (h : List.Forall₂ (List.Forall₂ Cell.Alike) rows rows') :
    SameShape (.replace e columns rows) (.replace e columns rows') := by
  intro d
  have hvalues := valuesSql_sameShape d h
  simp only [Step.toSql]
  split
  · exact (Sql.SameShape.refl _).append hvalues
  · exact ((Sql.SameShape.refl _).append hvalues).append (.refl _)

lemma insertAbsent (e : Entity) (columns : List Field)
    {rows rows' : List (List Cell × List Match)}
    (h : List.Forall₂ (fun x y => List.Forall₂ Cell.Alike x.1 y.1 ∧
      List.Forall₂ Match.Alike x.2 y.2) rows rows') :
    SameShape (.insertAbsent e columns rows) (.insertAbsent e columns rows') := by
  intro d
  refine (Sql.SameShape.refl _).append (.joined_map (fun x y hxy => ?_) h " UNION ALL ")
  exact ((((Sql.SameShape.refl _).append (rowSql_sameShape d hxy.1)).append (.refl _)).append
    (keySql_sameShape d hxy.2)).append (.refl _)

lemma fillTemp (temp : String) (columns : List Field) {rows rows' : List (List Cell)}
    (h : List.Forall₂ (List.Forall₂ Cell.Alike) rows rows') :
    SameShape (.fillTemp temp columns rows) (.fillTemp temp columns rows') :=
  fun d => (Sql.SameShape.refl _).append (valuesSql_sameShape d h)

lemma update (e : Entity) {as bs : List Assignment} {rows rows' : List (List Match)}
    (has : List.Forall₂ Assignment.Alike as bs)
    (hrows : List.Forall₂ (List.Forall₂ Match.Alike) rows rows') :
    SameShape (.update e as rows) (.update e bs rows') := by
  intro d
  exact (((Sql.SameShape.refl _).append (.joined_map (fun _ _ h => h.toSql d) has ", ")).append
    (.refl _)).append (keyedRowsSql_sameShape d e.primaryKeys hrows)

lemma delete (e : Entity) (mark? : Option Mark) {groups groups' : List (List Match)}
    (h : List.Forall₂ (List.Forall₂ Match.Alike) groups groups') :
    SameShape (.delete e mark? groups) (.delete e mark? groups') := by
  intro d
  refine (Sql.SameShape.refl _).append (.joined_map (fun group group' hgroup => ?_) h " OR ")
  exact ((Sql.SameShape.refl _).append (groupSql_sameShape d "" hgroup)).append (.refl _)

lemma select (e : Entity) (selection : Selection) {groups groups' : List (List Match)}
    (h : List.Forall₂ (List.Forall₂ Match.Alike) groups groups') :
    SameShape (.select e selection groups) (.select e selection groups') := by
  intro d
  refine .joined_map (fun group group' hgroup => ?_) h " UNION ALL "
  exact (Sql.SameShape.refl _).append (groupSql_sameShape d "a." hgroup)

end Step.SameShape

end QueryLoom

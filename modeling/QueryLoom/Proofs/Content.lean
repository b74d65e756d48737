import Mathlib.Data.List.Nodup
import QueryLoom.Statement

/-!
# The content of SQL under construction

SQL under construction stands for a sequence of symbols: the characters of its text and its bound
values. How the text was cut into parts is not visible in it. As long as there are as many places
as values, every operation appends symbols of its own and changes nothing before them.
-/

namespace QueryLoom

/-- A symbol of SQL: a character of its text, or a bound value. -/
inductive Symbol where
  | char (c : Char)
  | value (v : Json)

/-- The symbols of a text. -/
def Symbol.ofText (s : String) : List Symbol := s.toList.map .char

/-- The bound value of a symbol. -/
def Symbol.value? : Symbol → Option Json
  | .char _ => none
  | .value v => some v

@[simp] lemma Symbol.ofText_append (s t : String) :
    Symbol.ofText (s ++ t) = Symbol.ofText s ++ Symbol.ofText t := by
  simp [Symbol.ofText]

lemma Symbol.ofText_of_isEmpty {s : String} (h : s.isEmpty = true) : Symbol.ofText s = [] := by
  rw [String.isEmpty_iff.mp h]
  rfl

@[simp] lemma Symbol.filterMap_ofText (s : String) :
    (Symbol.ofText s).filterMap Symbol.value? = [] := by
  simp [Symbol.ofText, List.filterMap_map, Function.comp_def, Symbol.value?]

namespace Sql

/-! ### Alignment and content -/

/-- There are as many places as values. -/
def Aligned (q : Sql) : Prop := q.parts.count .param = q.params.length

/-- The symbols of some parts, whose places take the values in order. -/
def contentOf : List SqlPart → List Json → List Symbol
  | [], _ => []
  | .raw s :: parts, values => Symbol.ofText s ++ contentOf parts values
  | .param :: parts, value :: values => .value value :: contentOf parts values
  | .param :: parts, [] => contentOf parts []

/-- The symbols of SQL under construction. -/
def content (q : Sql) : List Symbol := contentOf q.parts q.params

lemma contentOf_append {parts : List SqlPart} {values : List Json}
    (h : parts.count .param = values.length) (parts' : List SqlPart) (values' : List Json) :
    contentOf (parts ++ parts') (values ++ values')
      = contentOf parts values ++ contentOf parts' values' := by
  induction parts generalizing values with
  | nil =>
    rw [List.count_nil] at h
    simp [List.length_eq_zero_iff.mp h.symm, contentOf]
  | cons part parts ih =>
    cases part with
    | raw s =>
      rw [List.count_cons_of_ne (by simp)] at h
      simp [contentOf, ih h]
    | param =>
      cases values with
      | nil => simp at h
      | cons v values =>
        have h' : parts.count .param = values.length := by simpa using h
        simp [contentOf, ih h']

lemma count_addText (s : String) (parts : List SqlPart) :
    (addText s parts).count .param = parts.count .param := by
  fun_induction addText s parts with
  | case1 => simp
  | case2 => simp
  | case3 part parts _ ih => simp [List.count_cons, ih]

/-- Text that joins the last part is still text at the end. -/
lemma contentOf_addText (s : String) (parts : List SqlPart) (values : List Json) :
    contentOf (addText s parts) values = contentOf parts values ++ Symbol.ofText s := by
  fun_induction addText s parts generalizing values with
  | case1 => simp [contentOf]
  | case2 last => simp [contentOf]
  | case3 part parts _ ih =>
    cases part with
    | raw t => simp [contentOf, ih]
    | param => cases values <;> simp [contentOf, ih]

/-! ### Operations -/

/-- `q'` is `q` with the symbols `w` after it, places and values still in step. -/
structure Extends (q : Sql) (w : List Symbol) (q' : Sql) : Prop where
  aligned : q.Aligned → q'.Aligned
  content : q.Aligned → q'.content = q.content ++ w

namespace Extends

lemma refl (q : Sql) : Extends q [] q := ⟨id, fun _ => by simp⟩

lemma trans {q q' q'' : Sql} {w w' : List Symbol} (h : Extends q w q') (h' : Extends q' w' q'') :
    Extends q (w ++ w') q'' where
  aligned hq := h'.aligned (h.aligned hq)
  content hq := by rw [h'.content (h.aligned hq), h.content hq, List.append_assoc]

end Extends

lemma aligned_empty : empty.Aligned := rfl

@[simp] lemma content_empty : empty.content = [] := rfl

@[simp] lemma content_text (s : String) : (text s).content = Symbol.ofText s := by
  simp [content, text, contentOf]

lemma push_extends (q : Sql) (s : String) : Extends q (Symbol.ofText s) (q.push s) := by
  unfold push
  split
  · next h =>
    rw [Symbol.ofText_of_isEmpty h]
    exact .refl q
  · exact ⟨fun hq => (count_addText s q.parts).trans hq, fun _ => contentOf_addText s q.parts _⟩

lemma pushBind_extends (q : Sql) (v : Json) : Extends q [.value v] (q.pushBind v) where
  aligned hq := by
    rw [Aligned] at hq
    simp [Aligned, pushBind, hq]
  content hq := contentOf_append hq [.param] [v]

lemma pushIdent_extends (q : Sql) (id : Ident) (d : Dialect) :
    Extends q (Symbol.ofText (id.toSql d)) (q.pushIdent id d) :=
  push_extends q (id.toSql d)

lemma pushSql_extends (q : Sql) {other : Sql} (h : other.Aligned) :
    Extends q other.content (q.pushSql other) where
  aligned hq := by
    rw [Aligned] at hq h
    simp [Aligned, pushSql, hq, h]
  content hq := contentOf_append hq other.parts other.params

/-- What each item appends, with the separator between. -/
lemma foldl_push_extends {α : Type} {f : Sql → α → Sql} {g : α → List Symbol} (sep : String)
    (items : List α) (h : ∀ x ∈ items, ∀ q, Extends q (g x) (f q x)) (q : Sql) :
    Extends q (items.flatMap fun x => Symbol.ofText sep ++ g x)
      (items.foldl (fun q x => f (q.push sep) x) q) := by
  induction items generalizing q with
  | nil => exact .refl q
  | cons x xs ih =>
    have hx : Extends q (Symbol.ofText sep ++ g x) (f (q.push sep) x) :=
      (push_extends q sep).trans (h x List.mem_cons_self _)
    exact hx.trans (ih (fun y hy => h y (List.mem_cons_of_mem x hy)) _)

lemma intercalate_cons_eq {α β : Type} (sep : List β) (g : α → List β) (x : α) (xs : List α) :
    sep.intercalate ((x :: xs).map g) = g x ++ xs.flatMap fun y => sep ++ g y := by
  induction xs generalizing x with
  | nil => simp
  | cons y xs ih =>
    rw [List.map_cons, List.map_cons, List.intercalate_cons_cons, ← List.map_cons, ih,
      List.flatMap_cons]
    simp

lemma pushJoined_extends {α : Type} {f : Sql → α → Sql} {g : α → List Symbol} (items : List α)
    (sep : String) (h : ∀ x ∈ items, ∀ q, Extends q (g x) (f q x)) (q : Sql) :
    Extends q ((Symbol.ofText sep).intercalate (items.map g)) (q.pushJoined items sep f) := by
  cases items with
  | nil => exact .refl q
  | cons x xs =>
    rw [intercalate_cons_eq]
    exact (h x List.mem_cons_self q).trans
      (foldl_push_extends sep xs (fun y hy => h y (List.mem_cons_of_mem x hy)) _)

/-- The symbols of a list of bound values. -/
def listContent : List Json → List Symbol
  | [] => Symbol.ofText "NULL"
  | values => (Symbol.ofText ", ").intercalate (values.map fun v => [.value v])

lemma pushBindList_extends (q : Sql) (values : List Json) :
    Extends q (listContent values) (q.pushBindList values) := by
  cases values with
  | nil => exact push_extends q "NULL"
  | cons v vs =>
    exact pushJoined_extends (f := pushBind) (v :: vs) ", " (fun x _ q => pushBind_extends q x) q

/-! ### Statements -/

/-- The texts between the bound values, before the first and after the last of them. -/
def gaps : List Symbol → List (List Char)
  | [] => [[]]
  | .char c :: w =>
    match gaps w with
    | [] => [[c]]
    | gap :: more => (c :: gap) :: more
  | .value _ :: w => [] :: gaps w

/-- One list after the other, with the items of `between` in the gaps. -/
def weave {α : Type} : (gaps between : List (List α)) → List α
  | [], _ => []
  | gap :: _, [] => gap
  | gap :: more, item :: items => gap ++ item ++ weave more items

/-- The placeholders of `n` values, the first of which has the number `index`. -/
def placeholdersFrom (d : Dialect) (index n : Nat) : List String :=
  (List.range' index n).map d.placeholder

lemma gaps_ne_nil (w : List Symbol) : gaps w ≠ [] := by
  fun_induction gaps w <;> simp_all

lemma weave_gaps_char {α : Type} (f : Char → α) (c : Char) (w : List Symbol)
    (items : List (List α)) :
    weave ((gaps (.char c :: w)).map (List.map f)) items
      = f c :: weave ((gaps w).map (List.map f)) items := by
  rw [gaps]
  cases h : gaps w with
  | nil => exact absurd h (gaps_ne_nil w)
  | cons gap more => cases items <;> simp [weave]

lemma weave_gaps_ofText {α : Type} (f : Char → α) (s : String) (w : List Symbol)
    (items : List (List α)) :
    weave ((gaps (Symbol.ofText s ++ w)).map (List.map f)) items
      = s.toList.map f ++ weave ((gaps w).map (List.map f)) items := by
  unfold Symbol.ofText
  induction s.toList with
  | nil => rfl
  | cons c cs ih => rw [List.map_cons, List.cons_append, weave_gaps_char, ih]; rfl

/-- The symbols are the texts between the values, and the values. -/
lemma weave_gaps_values (w : List Symbol) :
    weave ((gaps w).map (List.map .char)) ((w.filterMap Symbol.value?).map fun v => [.value v])
      = w := by
  induction w with
  | nil => rfl
  | cons x w ih =>
    cases x with
    | char c => rw [List.filterMap_cons_none rfl, weave_gaps_char, ih]
    | value v => simp [gaps, weave, Symbol.value?, ih]

/-- Aligned values are those of the content, in order. -/
lemma filterMap_contentOf {parts : List SqlPart} {values : List Json}
    (h : parts.count .param = values.length) :
    (contentOf parts values).filterMap Symbol.value? = values := by
  induction parts generalizing values with
  | nil => simpa [contentOf, eq_comm] using h
  | cons part parts ih =>
    cases part with
    | raw s =>
      rw [List.count_cons_of_ne (by simp)] at h
      simp [contentOf, ih h]
    | param =>
      cases values with
      | nil => simp at h
      | cons v values =>
        have h' : parts.count .param = values.length := by simpa using h
        simp [contentOf, Symbol.value?, ih h']

lemma Aligned.params_eq {q : Sql} (h : q.Aligned) :
    q.params = q.content.filterMap Symbol.value? :=
  (filterMap_contentOf h).symm

/-- The text of aligned parts: the texts between the values, and numbered placeholders. -/
lemma texts_eq_weave (d : Dialect) (index : Nat) {parts : List SqlPart} {values : List Json}
    (h : parts.count .param = values.length) :
    (texts d index parts).flatMap String.toList
      = weave (gaps (contentOf parts values))
          ((placeholdersFrom d index values.length).map String.toList) := by
  induction parts generalizing index values with
  | nil =>
    have hv : values = [] := by simpa [eq_comm] using h
    subst hv
    rfl
  | cons part parts ih =>
    cases part with
    | raw s =>
      rw [List.count_cons_of_ne (by simp)] at h
      have hw := weave_gaps_ofText id s (contentOf parts values)
        ((placeholdersFrom d index values.length).map String.toList)
      simp only [List.map_id, List.map_id_fun] at hw
      simp only [texts, contentOf, List.flatMap_cons, ih index h, hw]
    | param =>
      cases values with
      | nil => simp at h
      | cons v values =>
        have h' : parts.count .param = values.length := by simpa using h
        simp [texts, contentOf, gaps, weave, placeholdersFrom, List.range'_succ, ih (index + 1) h']

lemma toList_render {q : Sql} (h : q.Aligned) (d : Dialect) :
    (q.render d).toList = weave (gaps q.content)
      ((placeholdersFrom d 1 q.params.length).map String.toList) := by
  rw [render, String.toList_join]
  exact texts_eq_weave d 1 h

/-- The finished statement depends on the content alone. -/
lemma build_congr {p q : Sql} (hp : p.Aligned) (hq : q.Aligned) (h : p.content = q.content)
    (d : Dialect) : p.build d = q.build d := by
  have hparams : p.params = q.params := by rw [hp.params_eq, hq.params_eq, h]
  have hsql : p.render d = q.render d := by
    apply String.toList_inj.mp
    rw [toList_render hp, toList_render hq, h, hparams]
  rw [build, build, hparams, hsql]

lemma isBlank_iff {q : Sql} (h : q.Aligned) : q.isBlank = true ↔ q.content = [] := by
  obtain ⟨parts, values⟩ := q
  simp only [Aligned, isBlank, content] at h ⊢
  induction parts generalizing values with
  | nil => simp [contentOf]
  | cons part parts ih =>
    cases part with
    | raw s =>
      rw [List.count_cons_of_ne (by simp)] at h
      have hs : s.isEmpty = true ↔ Symbol.ofText s = [] := by
        simp [Symbol.ofText, String.isEmpty_iff]
      simp [contentOf, ih values h, hs]
    | param => cases values <;> simp_all [contentOf]

/-- No number is given to two placeholders of numbered dialects. -/
lemma nodup_placeholders_postgres (index n : Nat) :
    (placeholdersFrom .postgres index n).Nodup := by
  refine List.Nodup.map ?_ List.nodup_range'
  intro a b h
  have hrepr : a.repr = b.repr := by simpa [Dialect.placeholder] using h
  have hdigits : Nat.toDigits 10 a = Nat.toDigits 10 b := by
    rw [← Nat.toList_repr, hrepr, Nat.toList_repr]
  have hnumber := congrArg (Nat.ofDigitChars 10 · 0) hdigits
  simpa only [Nat.ofDigitChars_ten_toDigits] using hnumber

end Sql

end QueryLoom

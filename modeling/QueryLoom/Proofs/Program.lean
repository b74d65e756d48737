import QueryLoom.Proofs.Content

/-!
# Programs of operations on SQL

Whatever operations put SQL together, nested in whatever way, the places keep in step with the
values, and the finished statement depends only on the symbols that were appended.
-/

namespace QueryLoom.Sql

/-! ### Programs -/

/-- An operation on SQL under construction. -/
inductive Op where
  | push (s : String)
  | bind (v : Json)
  | bindList (values : List Json)
  | ident (id : Ident) (d : Dialect)
  /-- Append SQL that was put together apart, from a text or from nothing. -/
  | splice (start? : Option String) (ops : List Op)
  /-- Append items with a separator between; what is done for each item is itself a program. -/
  | joined (sep : String) (bodies : List (List Op))

/-- The SQL that a program starts with. -/
def starting : Option String → Sql
  | none => empty
  | some s => text s

mutual

/-- Perform an operation. -/
def Op.run : Op → Sql → Sql
  | .push s, q => q.push s
  | .bind v, q => q.pushBind v
  | .bindList values, q => q.pushBindList values
  | .ident id d, q => q.pushIdent id d
  | .splice start? ops, q => q.pushSql (runAll ops (starting start?))
  | .joined sep bodies, q => q.pushJoined (runEach bodies) sep fun q body => body q

/-- Perform operations one after the other. -/
def runAll : List Op → Sql → Sql
  | [], q => q
  | op :: ops, q => runAll ops (op.run q)

/-- The effect of each body. -/
def runEach : List (List Op) → List (Sql → Sql)
  | [] => []
  | ops :: bodies => runAll ops :: runEach bodies

end

mutual

/-- The symbols that an operation appends. -/
def Op.content : Op → List Symbol
  | .push s => Symbol.ofText s
  | .bind v => [.value v]
  | .bindList values => listContent values
  | .ident id d => Symbol.ofText (id.toSql d)
  | .splice start? ops => Symbol.ofText (start?.getD "") ++ contentAll ops
  | .joined sep bodies => (Symbol.ofText sep).intercalate (contentEach bodies)

/-- The symbols that operations append one after the other. -/
def contentAll : List Op → List Symbol
  | [] => []
  | op :: ops => op.content ++ contentAll ops

/-- The symbols of each body. -/
def contentEach : List (List Op) → List (List Symbol)
  | [] => []
  | ops :: bodies => contentAll ops :: contentEach bodies

end

/-! ### What a program appends -/

lemma aligned_starting (start? : Option String) : (starting start?).Aligned := by
  cases start? <;> rfl

lemma content_starting (start? : Option String) :
    (starting start?).content = Symbol.ofText (start?.getD "") := by
  cases start? with
  | none => rfl
  | some s => exact content_text s

/-- Items that append their own symbols, given as effects beside the symbols. -/
lemma pushJoined_extends_of_forall₂ {effects : List (Sql → Sql)} {contents : List (List Symbol)}
    (h : List.Forall₂ (fun f w => ∀ q, Extends q w (f q)) effects contents) (sep : String)
    (q : Sql) :
    Extends q ((Symbol.ofText sep).intercalate contents)
      (q.pushJoined effects sep fun q f => f q) := by
  have hzip : effects = (effects.zip contents).map Prod.fst :=
    (List.map_fst_zip (Nat.le_of_eq h.length_eq)).symm
  have hzip' : contents = (effects.zip contents).map Prod.snd :=
    (List.map_snd_zip (Nat.le_of_eq h.length_eq.symm)).symm
  have hmem : ∀ x ∈ effects.zip contents, ∀ q, Extends q x.2 (x.1 q) := by
    intro x hx
    exact (List.forall₂_iff_zip.mp h).2 hx
  have hmap : q.pushJoined effects sep (fun q f => f q)
      = q.pushJoined (effects.zip contents) sep fun q x => x.1 q := by
    conv_lhs => rw [hzip]
    cases effects.zip contents <;> simp [pushJoined, List.foldl_map]
  rw [hmap]
  conv => arg 2; rw [hzip']
  exact pushJoined_extends (effects.zip contents) sep hmem q

mutual

theorem Op.run_extends (op : Op) (q : Sql) : Extends q op.content (op.run q) := by
  match op with
  | .push s => exact push_extends q s
  | .bind v => exact pushBind_extends q v
  | .bindList values => exact pushBindList_extends q values
  | .ident id d => exact pushIdent_extends q id d
  | .splice start? ops =>
    have hrun := runAll_extends ops (starting start?)
    have hother := hrun.aligned (aligned_starting start?)
    have hcontent := hrun.content (aligned_starting start?)
    rw [content_starting] at hcontent
    rw [Op.content, Op.run, ← hcontent]
    exact pushSql_extends q hother
  | .joined sep bodies => exact pushJoined_extends_of_forall₂ (runEach_extends bodies) sep q

theorem runAll_extends (ops : List Op) (q : Sql) : Extends q (contentAll ops) (runAll ops q) := by
  match ops with
  | [] => exact .refl q
  | op :: ops => exact (Op.run_extends op q).trans (runAll_extends ops (op.run q))

theorem runEach_extends (bodies : List (List Op)) :
    List.Forall₂ (fun f w => ∀ q, Extends q w (f q)) (runEach bodies) (contentEach bodies) := by
  match bodies with
  | [] => exact .nil
  | ops :: bodies => exact .cons (runAll_extends ops) (runEach_extends bodies)

end

/-! ### Reachable SQL -/

/-- A way to put SQL together. -/
structure Program where
  start? : Option String
  ops : List Op

namespace Program

/-- The SQL that a program puts together. -/
def sql (p : Program) : Sql := runAll p.ops (starting p.start?)

/-- The symbols that a program appends, from its start on. -/
def content (p : Program) : List Symbol := Symbol.ofText (p.start?.getD "") ++ contentAll p.ops

lemma aligned_sql (p : Program) : p.sql.Aligned :=
  (runAll_extends p.ops _).aligned (aligned_starting p.start?)

lemma content_sql (p : Program) : p.sql.content = p.content := by
  rw [sql, (runAll_extends p.ops _).content (aligned_starting p.start?), content_starting]
  rfl

/-- SQL that a program puts together has as many places as values and stands for the symbols that
the operations appended. It is blank exactly when there are none, and the finished statement
depends on them alone: its values are theirs in order, and its text is theirs with the placeholder
of number `k` for the `k`-th value. Numbered placeholders are all different. -/
theorem build_sql (p : Program) :
    p.sql.parts.count .param = p.sql.params.length ∧
    p.sql.content = p.content ∧
    (∀ op : Op, (op.run p.sql).content = p.sql.content ++ op.content) ∧
    (p.sql.isBlank = true ↔ p.content = []) ∧
    (∀ d : Dialect,
      (p.sql.build d).params = p.content.filterMap Symbol.value? ∧
      (p.sql.build d).sql.toList = weave (gaps p.content)
        ((placeholdersFrom d 1 (p.sql.build d).params.length).map String.toList)) ∧
    p.content = weave ((gaps p.content).map (List.map .char))
      ((p.content.filterMap Symbol.value?).map fun v => [.value v]) ∧
    (∀ (other : Program) (d : Dialect), other.content = p.content →
      other.sql.build d = p.sql.build d) ∧
    (∀ n, placeholdersFrom .postgres 1 n = (List.range' 1 n).map (fun k => "$" ++ toString k) ∧
      (placeholdersFrom .postgres 1 n).Nodup) := by
  have haligned := p.aligned_sql
  have hcontent := p.content_sql
  refine ⟨haligned, hcontent, ?_, ?_, ?_, (weave_gaps_values _).symm, ?_, ?_⟩
  · intro op
    exact (op.run_extends p.sql).content haligned
  · rw [isBlank_iff haligned, hcontent]
  · intro d
    refine ⟨?_, ?_⟩
    · rw [← hcontent]
      exact haligned.params_eq
    · rw [← hcontent]
      exact toList_render haligned d
  · intro other d h
    exact build_congr other.aligned_sql haligned (by rw [other.content_sql, hcontent, h]) d
  · intro n
    exact ⟨rfl, nodup_placeholders_postgres 1 n⟩

/-- A list that is spliced in gives the same statement as one that is joined in place. -/
theorem build_sql_spliced :
    (⟨some "a IN (", [.splice none [.bindList [.int 1, .null]], .push ")"]⟩ : Program).content
      = (⟨none, [.push "a IN", .push " (",
          .joined ", " [[.bind (.int 1)], [.bind .null]], .push ")"]⟩ : Program).content ∧
    (⟨some "a IN (", [.splice none [.bindList [.int 1, .null]], .push ")"]⟩ : Program).sql.build
        .postgres
      = (⟨none, [.push "a IN", .push " (",
          .joined ", " [[.bind (.int 1)], [.bind .null]], .push ")"]⟩ : Program).sql.build
        .postgres :=
  ⟨rfl, (build_sql ⟨none, [.push "a IN", .push " (",
    .joined ", " [[.bind (.int 1)], [.bind .null]], .push ")"]⟩).2.2.2.2.2.2.1 _ _ rfl⟩

end Program

end QueryLoom.Sql

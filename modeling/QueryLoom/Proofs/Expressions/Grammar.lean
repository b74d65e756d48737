import Mathlib.Data.List.Basic
import QueryLoom.Condition.Expr

/-!
# The grammar of conditions

The derivation trees of the grammar

    or      := and ("or" and)*
    and     := not ("and" not)*
    not     := "not" not | cmp
    cmp     := add (("==" | "!=" | "<" | "<=" | ">" | ">=") add)?
    add     := mul (("+" | "-") mul)*
    mul     := unary (("*" | "/" | "%") unary)*
    unary   := "-" unary | primary
    primary := number | string | null | true | false | path | "(" or ")"

with the tokens they derive and the expressions they stand for. A list of tokens is derived by at
most one tree of a kind.
-/

namespace QueryLoom.Condition

/-! ### Derivations -/

/-- A kind of phrase that is a chain of phrases of the next kind, with signs between them. -/
inductive Chain where
  | or
  | and
  | sum
  | product

/-- A kind of phrase. -/
inductive Phrase where
  | chain (k : Chain)
  | negation
  | comparison
  | unary
  | primary

/-- The phrases that make up a chain. -/
def Chain.item : Chain → Phrase
  | .or => .chain .and
  | .and => .negation
  | .sum => .chain .product
  | .product => .unary

/-- A sign between two phrases of a chain. -/
inductive Sign : Chain → Type where
  | or : Sign .or
  | and : Sign .and
  | plus : Sign .sum
  | minus : Sign .sum
  | times : Sign .product
  | divided : Sign .product
  | remainder : Sign .product

/-- The token of a sign. -/
def Sign.token {k : Chain} : Sign k → Token
  | .or => .or
  | .and => .and
  | .plus => .op .add
  | .minus => .op .sub
  | .times => .op .mul
  | .divided => .op .div
  | .remainder => .op .rem

/-- The expression of two phrases and the sign between them. -/
def Sign.join {k : Chain} (left right : Expr) : Sign k → Expr
  | .or => .or left right
  | .and => .and left right
  | .plus => .binary .add left right
  | .minus => .binary .sub left right
  | .times => .binary .mul left right
  | .divided => .binary .div left right
  | .remainder => .binary .rem left right

/-- The signs of comparisons. -/
def comparisons : List Operator := [.eq, .ne, .lt, .le, .gt, .ge]

mutual

/-- A derivation of a phrase. -/
inductive Derivation : Phrase → Type where
  | chain {k : Chain} (first : Derivation k.item) (more : Links k) : Derivation (.chain k)
  | not (inner : Derivation .negation) : Derivation .negation
  | plain (inner : Derivation .comparison) : Derivation .negation
  | compare (operator : Operator) (h : operator ∈ comparisons)
      (left right : Derivation (.chain .sum)) : Derivation .comparison
  | single (inner : Derivation (.chain .sum)) : Derivation .comparison
  | minus (inner : Derivation .unary) : Derivation .unary
  | bare (inner : Derivation .primary) : Derivation .unary
  | number (f : Float) : Derivation .primary
  | string (s : String) : Derivation .primary
  | null : Derivation .primary
  | true : Derivation .primary
  | false : Derivation .primary
  | path (p : String) : Derivation .primary
  | parentheses (inner : Derivation (.chain .or)) : Derivation .primary

/-- The signs and phrases of a chain after its first phrase. -/
inductive Links : Chain → Type where
  | done {k : Chain} : Links k
  | more {k : Chain} (sign : Sign k) (next : Derivation k.item) (rest : Links k) : Links k

end

mutual

/-- The tokens that a tree derives. -/
def Derivation.tokens {p : Phrase} : Derivation p → List Token
  | .chain first more => first.tokens ++ more.tokens
  | .not inner => .not :: inner.tokens
  | .plain inner => inner.tokens
  | .compare operator _ left right => left.tokens ++ .op operator :: right.tokens
  | .single inner => inner.tokens
  | .minus inner => .op .sub :: inner.tokens
  | .bare inner => inner.tokens
  | .number f => [.number f]
  | .string s => [.string s]
  | .null => [.null]
  | .true => [.true]
  | .false => [.false]
  | .path p => [.path p]
  | .parentheses inner => .open :: inner.tokens ++ [.close]

/-- The tokens of the rest of a chain. -/
def Links.tokens {k : Chain} : Links k → List Token
  | .done => []
  | .more sign next rest => sign.token :: (next.tokens ++ rest.tokens)

end

mutual

/-- The expression that a tree stands for; parentheses leave no trace. -/
def Derivation.expr {p : Phrase} : Derivation p → Expr
  | .chain first more => more.after first.expr
  | .not inner => .not inner.expr
  | .plain inner => inner.expr
  | .compare operator _ left right => .binary operator left.expr right.expr
  | .single inner => inner.expr
  | .minus inner => .neg inner.expr
  | .bare inner => inner.expr
  | .number f => .literal (numberValue f)
  | .string s => .literal (.string s)
  | .null => .literal .null
  | .true => .literal (.bool Bool.true)
  | .false => .literal (.bool Bool.false)
  | .path p => .path p
  | .parentheses inner => inner.expr

/-- The expression of a chain, with that of all phrases so far on the left of each sign. -/
def Links.after {k : Chain} (left : Expr) : Links k → Expr
  | .done => left
  | .more sign next rest => rest.after (sign.join left next.expr)

end

/-! ### How tightly phrases bind -/

/-- How tightly a phrase binds; the phrases that it is made of bind more tightly. -/
def Phrase.level : Phrase → Nat
  | .chain .or => 0
  | .chain .and => 1
  | .negation => 2
  | .comparison => 3
  | .chain .sum => 4
  | .chain .product => 5
  | .unary => 6
  | .primary => 7

/-- The level of the phrases that a token is a sign of. -/
def Token.level? : Token → Option Nat
  | .or => some 0
  | .and => some 1
  | .op .add | .op .sub => some 4
  | .op .mul | .op .div | .op .rem => some 5
  | .op _ => some 3
  | _ => none

/-- What follows does not begin with a sign that carries on a phrase of this level or a tighter
one. -/
def Stops (level : Nat) (rest : List Token) : Prop :=
  ∀ t ∈ rest.head?, ∀ n ∈ t.level?, n < level

lemma Stops.mono {level level' : Nat} {rest : List Token} (h : Stops level rest)
    (hle : level ≤ level') : Stops level' rest :=
  fun t ht n hn => Nat.lt_of_lt_of_le (h t ht n hn) hle

lemma stops_nil (level : Nat) : Stops level [] := nofun

lemma stops_cons {level : Nat} {t : Token} {rest : List Token} :
    Stops level (t :: rest) ↔ ∀ n ∈ t.level?, n < level := by
  simp [Stops]

lemma Chain.level_lt_item (k : Chain) : (Phrase.chain k).level < k.item.level := by
  cases k <;> decide

lemma Sign.level?_token {k : Chain} (sign : Sign k) :
    sign.token.level? = some (Phrase.chain k).level := by
  cases sign <;> rfl

lemma level?_of_mem_comparisons {operator : Operator} (h : operator ∈ comparisons) :
    (Token.op operator).level? = some 3 := by
  cases operator <;> first | rfl | simp [comparisons] at h

lemma Sign.stops {k : Chain} (sign : Sign k) (rest : List Token) :
    Stops k.item.level (sign.token :: rest) := by
  rw [stops_cons, sign.level?_token]
  rintro n ⟨⟩
  exact k.level_lt_item

/-- A phrase of a chain ends where the rest of the chain begins. -/
lemma Links.stops {k : Chain} {rest : List Token} (h : Stops (Phrase.chain k).level rest)
    (l : Links k) : Stops k.item.level (l.tokens ++ rest) := by
  cases l with
  | done => exact h.mono (Nat.le_of_lt k.level_lt_item)
  | more sign next more => exact sign.stops _

/-- A chain does not go on with one of its signs. -/
lemma Stops.ne_sign {k : Chain} {sign : Sign k} {rest more : List Token}
    (h : Stops (Phrase.chain k).level rest) : rest ≠ sign.token :: more := by
  rintro rfl
  exact absurd (stops_cons.mp h _ sign.level?_token) (Nat.lt_irrefl _)

lemma Stops.ne_comparison {operator : Operator} {rest more : List Token} (h : Stops 3 rest)
    (ho : operator ∈ comparisons) : rest ≠ .op operator :: more := by
  rintro rfl
  exact absurd (stops_cons.mp h _ (level?_of_mem_comparisons ho)) (Nat.lt_irrefl _)

lemma stops_comparison {operator : Operator} (h : operator ∈ comparisons) (rest : List Token) :
    Stops (Phrase.chain .sum).level (.op operator :: rest) := by
  rw [stops_cons, level?_of_mem_comparisons h]
  rintro n ⟨⟩
  decide

lemma stops_close (level : Nat) (rest : List Token) : Stops level (.close :: rest) := by
  rw [stops_cons]
  exact nofun

/-! ### A list of tokens has one derivation -/

/-- Only a negation and what is looser begins with the sign of negation. -/
lemma Derivation.tokens_ne_not {p : Phrase} (d : Derivation p) (hp : 2 < p.level)
    (rest more : List Token) : d.tokens ++ rest ≠ .not :: more := by
  match d with
  | @chain k first links =>
    rw [tokens, List.append_assoc]
    exact first.tokens_ne_not (Nat.lt_trans hp k.level_lt_item) _ more
  | compare operator _ left right =>
    rw [tokens, List.append_assoc]
    exact left.tokens_ne_not (by decide) _ more
  | single inner => exact inner.tokens_ne_not (by decide) rest more
  | bare inner => exact inner.tokens_ne_not (by decide) rest more
  | not _ | plain _ => exact absurd hp (by decide)
  | minus _ | parentheses _ => exact nofun
  | number _ | string _ | null | true | false | path _ => exact nofun

lemma Derivation.primary_ne_minus (d : Derivation .primary) (rest more : List Token) :
    d.tokens ++ rest ≠ .op .sub :: more := by
  cases d <;> exact nofun

lemma Sign.token_injective {k : Chain} {sign sign' : Sign k} (h : sign.token = sign'.token) :
    sign = sign' := by
  cases sign <;> cases sign' <;> first | rfl | cases h

mutual

/-- A phrase that is followed by nothing that carries it on has one tree, and ends in one place. -/
lemma Derivation.unique {p : Phrase} (d d' : Derivation p) {rest rest' : List Token}
    (h : d.tokens ++ rest = d'.tokens ++ rest') (hrest : Stops p.level rest)
    (hrest' : Stops p.level rest') : d = d' ∧ rest = rest' := by
  match d, d' with
  | .chain first more, .chain first' more' =>
    rw [Derivation.tokens, Derivation.tokens, List.append_assoc, List.append_assoc] at h
    obtain ⟨rfl, hmore⟩ := first.unique first' h (more.stops hrest) (more'.stops hrest')
    obtain ⟨rfl, hend⟩ := more.unique more' hmore hrest hrest'
    exact ⟨rfl, hend⟩
  | .not inner, .not inner' =>
    obtain ⟨rfl, hend⟩ := inner.unique inner' (List.cons.inj h).2 hrest hrest'
    exact ⟨rfl, hend⟩
  | .not inner, .plain inner' => exact absurd h.symm (inner'.tokens_ne_not (by decide) _ _)
  | .plain inner, .not inner' => exact absurd h (inner.tokens_ne_not (by decide) _ _)
  | .plain inner, .plain inner' =>
    obtain ⟨rfl, hend⟩ := inner.unique inner' h (hrest.mono (by decide)) (hrest'.mono (by decide))
    exact ⟨rfl, hend⟩
  | .compare operator ho left right, .compare operator' ho' left' right' =>
    rw [Derivation.tokens, Derivation.tokens, List.append_assoc, List.append_assoc] at h
    obtain ⟨rfl, hsign⟩ := left.unique left' h (stops_comparison ho _) (stops_comparison ho' _)
    obtain ⟨hoperator, hright⟩ := List.cons.inj hsign
    obtain rfl := Token.op.inj hoperator
    obtain ⟨rfl, hend⟩ :=
      right.unique right' hright (hrest.mono (by decide)) (hrest'.mono (by decide))
    exact ⟨rfl, hend⟩
  | .compare operator ho left right, .single inner' =>
    rw [Derivation.tokens, Derivation.tokens, List.append_assoc] at h
    obtain ⟨-, hsign⟩ := left.unique inner' h (stops_comparison ho _) (hrest'.mono (by decide))
    exact absurd hsign.symm (hrest'.ne_comparison ho)
  | .single inner, .compare operator' ho' left' right' =>
    rw [Derivation.tokens, Derivation.tokens, List.append_assoc] at h
    obtain ⟨-, hsign⟩ := inner.unique left' h (hrest.mono (by decide)) (stops_comparison ho' _)
    exact absurd hsign (hrest.ne_comparison ho')
  | .single inner, .single inner' =>
    obtain ⟨rfl, hend⟩ := inner.unique inner' h (hrest.mono (by decide)) (hrest'.mono (by decide))
    exact ⟨rfl, hend⟩
  | .minus inner, .minus inner' =>
    obtain ⟨rfl, hend⟩ := inner.unique inner' (List.cons.inj h).2 hrest hrest'
    exact ⟨rfl, hend⟩
  | .minus inner, .bare inner' => exact absurd h.symm (inner'.primary_ne_minus _ _)
  | .bare inner, .minus inner' => exact absurd h (inner.primary_ne_minus _ _)
  | .bare inner, .bare inner' =>
    obtain ⟨rfl, hend⟩ := inner.unique inner' h (hrest.mono (by decide)) (hrest'.mono (by decide))
    exact ⟨rfl, hend⟩
  | .parentheses inner, .parentheses inner' =>
    simp only [Derivation.tokens, List.cons_append, List.append_assoc, List.nil_append] at h
    obtain ⟨rfl, hclose⟩ :=
      inner.unique inner' (List.cons.inj h).2 (stops_close _ _) (stops_close _ _)
    exact ⟨rfl, (List.cons.inj hclose).2⟩
  | .parentheses _, .number _ | .parentheses _, .string _ | .parentheses _, .null
  | .parentheses _, .true | .parentheses _, .false | .parentheses _, .path _ => cases h
  | .number _, d' | .string _, d' | .null, d' | .true, d' | .false, d' | .path _, d' =>
    cases d' <;> simp_all [Derivation.tokens]

/-- The same for the rest of a chain. -/
lemma Links.unique {k : Chain} (l l' : Links k) {rest rest' : List Token}
    (h : l.tokens ++ rest = l'.tokens ++ rest') (hrest : Stops (Phrase.chain k).level rest)
    (hrest' : Stops (Phrase.chain k).level rest') : l = l' ∧ rest = rest' := by
  match l, l' with
  | .done, .done => exact ⟨rfl, h⟩
  | .done, .more sign' next' more' => exact absurd h hrest.ne_sign
  | .more sign next more, .done => exact absurd h.symm hrest'.ne_sign
  | .more sign next more, .more sign' next' more' =>
    rw [Links.tokens, Links.tokens, List.cons_append, List.cons_append, List.append_assoc,
      List.append_assoc] at h
    obtain ⟨hsign, hnext⟩ := List.cons.inj h
    obtain rfl := Sign.token_injective hsign
    obtain ⟨rfl, hmore⟩ := next.unique next' hnext (more.stops hrest) (more'.stops hrest')
    obtain ⟨rfl, hend⟩ := more.unique more' hmore hrest hrest'
    exact ⟨rfl, hend⟩

end

end QueryLoom.Condition

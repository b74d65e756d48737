import QueryLoom.Condition.Expr

/-!
# The grammar of conditions

From the loosest to the tightest: `or`, `and`, `not`, a single comparison, sums, products, minus
signs, and primaries. Chains of one level lean to the left; comparisons do not chain.

A reader takes the remaining tokens and returns an expression with what follows it, which is
shorter.
-/

namespace QueryLoom.Condition

/-- An expression read from some tokens, and the tokens after it. -/
abbrev Parsed (before : List Token) :=
  Except ConditionFault (Expr × { rest : List Token // rest.length < before.length })

/-- The same result for a longer list of tokens. -/
def Parsed.weaken {short long : List Token} (h : short.length ≤ long.length) (p : Parsed short) :
    Parsed long :=
  p.map fun (e, rest) => (e, ⟨rest.1, Nat.lt_of_lt_of_le rest.2 h⟩)

/-- Whether an operator compares. -/
def Operator.isComparison : Operator → Bool
  | .eq | .ne | .lt | .le | .gt | .ge => true
  | _ => false

/-- Whether an operator forms sums. -/
def Operator.isAdditive : Operator → Bool
  | .add | .sub => true
  | _ => false

/-- Whether an operator forms products. -/
def Operator.isMultiplicative : Operator → Bool
  | .mul | .div | .rem => true
  | _ => false

mutual

/-- Alternatives. -/
def readOr (ts : List Token) : Parsed ts :=
  match readAnd ts with
  | .error fault => .error fault
  | .ok (left, ⟨rest, h⟩) => moreOr ts left rest h
termination_by (ts.length, 16)

/-- Further alternatives after the first ones. -/
def moreOr (ts : List Token) (left : Expr) (rest : List Token) (h : rest.length < ts.length) :
    Parsed ts :=
  match _e : rest with
  | .or :: rest' =>
    match readAnd rest' with
    | .error fault => .error fault
    | .ok (right, ⟨after, ha⟩) =>
      moreOr ts (.or left right) after (by simp at h; omega)
  | rest => .ok (left, ⟨rest, h⟩)
termination_by (rest.length, 15)

/-- Conjunctions. -/
def readAnd (ts : List Token) : Parsed ts :=
  match readNot ts with
  | .error fault => .error fault
  | .ok (left, ⟨rest, h⟩) => moreAnd ts left rest h
termination_by (ts.length, 14)

/-- Further conjuncts after the first ones. -/
def moreAnd (ts : List Token) (left : Expr) (rest : List Token) (h : rest.length < ts.length) :
    Parsed ts :=
  match _e : rest with
  | .and :: rest' =>
    match readNot rest' with
    | .error fault => .error fault
    | .ok (right, ⟨after, ha⟩) =>
      moreAnd ts (.and left right) after (by simp at h; omega)
  | rest => .ok (left, ⟨rest, h⟩)
termination_by (rest.length, 13)

/-- Negations. -/
def readNot (ts : List Token) : Parsed ts :=
  match ts with
  | .not :: rest =>
    Parsed.weaken (by simp) ((readNot rest).map fun (e, after) => (.not e, after))
  | ts => readComparison ts
termination_by (ts.length, 12)

/-- At most one comparison. -/
def readComparison (ts : List Token) : Parsed ts :=
  match readSum ts with
  | .error fault => .error fault
  | .ok (left, ⟨.op operator :: rest, h⟩) =>
    have _shorter : rest.length < ts.length := by simp at h; omega
    if operator.isComparison then
      match readSum rest with
      | .error fault => .error fault
      | .ok (right, ⟨after, ha⟩) =>
        .ok (.binary operator left right, ⟨after, by simp at h; omega⟩)
    else .ok (left, ⟨.op operator :: rest, h⟩)
  | .ok (left, rest) => .ok (left, rest)
termination_by (ts.length, 11)

/-- Sums. -/
def readSum (ts : List Token) : Parsed ts :=
  match readProduct ts with
  | .error fault => .error fault
  | .ok (left, ⟨rest, h⟩) => moreSum ts left rest h
termination_by (ts.length, 10)

/-- Further terms after the first ones. -/
def moreSum (ts : List Token) (left : Expr) (rest : List Token) (h : rest.length < ts.length) :
    Parsed ts :=
  match _e : rest with
  | .op operator :: rest' =>
    if operator.isAdditive then
      match readProduct rest' with
      | .error fault => .error fault
      | .ok (right, ⟨after, ha⟩) =>
        moreSum ts (.binary operator left right) after (by simp at h; omega)
    else .ok (left, ⟨.op operator :: rest', h⟩)
  | rest => .ok (left, ⟨rest, h⟩)
termination_by (rest.length, 9)

/-- Products. -/
def readProduct (ts : List Token) : Parsed ts :=
  match readUnary ts with
  | .error fault => .error fault
  | .ok (left, ⟨rest, h⟩) => moreProduct ts left rest h
termination_by (ts.length, 8)

/-- Further factors after the first ones. -/
def moreProduct (ts : List Token) (left : Expr) (rest : List Token) (h : rest.length < ts.length) :
    Parsed ts :=
  match _e : rest with
  | .op operator :: rest' =>
    if operator.isMultiplicative then
      match readUnary rest' with
      | .error fault => .error fault
      | .ok (right, ⟨after, ha⟩) =>
        moreProduct ts (.binary operator left right) after (by simp at h; omega)
    else .ok (left, ⟨.op operator :: rest', h⟩)
  | rest => .ok (left, ⟨rest, h⟩)
termination_by (rest.length, 7)

/-- Minus signs. -/
def readUnary (ts : List Token) : Parsed ts :=
  match ts with
  | .op .sub :: rest =>
    Parsed.weaken (by simp) ((readUnary rest).map fun (e, after) => (.neg e, after))
  | ts => readPrimary ts
termination_by (ts.length, 6)

/-- Literals, paths and expressions in parentheses. -/
def readPrimary (ts : List Token) : Parsed ts :=
  match ts with
  | [] => .error .unexpectedEnd
  | .number f :: rest => .ok (.literal (numberValue f), ⟨rest, by simp⟩)
  | .string s :: rest => .ok (.literal (.string s), ⟨rest, by simp⟩)
  | .null :: rest => .ok (.literal .null, ⟨rest, by simp⟩)
  | .true :: rest => .ok (.literal (.bool true), ⟨rest, by simp⟩)
  | .false :: rest => .ok (.literal (.bool false), ⟨rest, by simp⟩)
  | .path p :: rest => .ok (.path p, ⟨rest, by simp⟩)
  | .open :: rest =>
    match readOr rest with
    | .error fault => .error fault
    | .ok (inner, ⟨.close :: after, ha⟩) => .ok (inner, ⟨after, by simp at ha ⊢; omega⟩)
    | .ok _ => .error .expectedClose
  | t :: _ => .error (.unexpectedToken t.shown)
termination_by (ts.length, 5)

end

/-- The expression that makes up all the tokens. -/
def Expr.ofTokens (ts : List Token) : Except ConditionFault Expr :=
  if ts.isEmpty then .error .emptyExpression
  else
    match readOr ts with
    | .error fault => .error fault
    | .ok (e, ⟨[], _⟩) => .ok e
    | .ok _ => .error .trailingInput

/-- The expression written as a text. -/
def Expr.parse (text : String) : SqlResult Expr :=
  match tokens text.toList with
  | .error fault => .error (.condition text fault)
  | .ok ts =>
    match Expr.ofTokens ts with
    | .error fault => .error (.condition text fault)
    | .ok e => .ok e

end QueryLoom.Condition

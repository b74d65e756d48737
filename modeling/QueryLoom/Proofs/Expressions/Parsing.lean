import Mathlib.Data.List.Basic
import QueryLoom.Condition.Parser
import QueryLoom.Proofs.Expressions.Grammar

/-!
# Reading conditions

The readers of conditions accept the phrases of the grammar, up to a token that does not carry them
on, and nothing else, and give the expression of the only derivation.
-/

namespace QueryLoom.Condition

/-- The reader of a kind of phrase. -/
def Phrase.read : (p : Phrase) → (ts : List Token) → Parsed ts
  | .chain .or => readOr
  | .chain .and => readAnd
  | .negation => readNot
  | .comparison => readComparison
  | .chain .sum => readSum
  | .chain .product => readProduct
  | .unary => readUnary
  | .primary => readPrimary

/-- The reader of the rest of a chain. -/
def Chain.readMore : (k : Chain) → (ts : List Token) → Expr → (rest : List Token) →
    rest.length < ts.length → Parsed ts
  | .or => moreOr
  | .and => moreAnd
  | .sum => moreSum
  | .product => moreProduct

/-! ### Steps of the readers -/

lemma read_chain (k : Chain) (ts : List Token) : (Phrase.chain k).read ts =
    match k.item.read ts with
    | .error fault => .error fault
    | .ok (left, ⟨rest, h⟩) => k.readMore ts left rest h := by
  cases k with
  | or => exact readOr.eq_1 ts
  | and => exact readAnd.eq_1 ts
  | sum => exact readSum.eq_1 ts
  | product => exact readProduct.eq_1 ts

lemma readMore_sign {k : Chain} (sign : Sign k) (ts : List Token) (left : Expr)
    (rest : List Token) (h : (sign.token :: rest).length < ts.length) :
    k.readMore ts left (sign.token :: rest) h =
      match k.item.read rest with
      | .error fault => .error fault
      | .ok (right, ⟨after, ha⟩) =>
        k.readMore ts (sign.join left right) after (Nat.lt_trans ha (Nat.lt_of_succ_lt h)) := by
  cases sign with
  | or => exact moreOr.eq_1 ts left rest h
  | and => exact moreAnd.eq_1 ts left rest h
  | plus => exact moreSum.eq_1 ts left .add rest h
  | minus => exact moreSum.eq_1 ts left .sub rest h
  | times => exact moreProduct.eq_1 ts left .mul rest h
  | divided => exact moreProduct.eq_1 ts left .div rest h
  | remainder => exact moreProduct.eq_1 ts left .rem rest h

lemma exists_sum_sign {operator : Operator} (h : operator.isAdditive = true) :
    ∃ sign : Sign .sum, sign.token = .op operator := by
  cases operator with
  | add => exact ⟨.plus, rfl⟩
  | sub => exact ⟨.minus, rfl⟩
  | _ => cases h

lemma exists_product_sign {operator : Operator} (h : operator.isMultiplicative = true) :
    ∃ sign : Sign .product, sign.token = .op operator := by
  cases operator with
  | mul => exact ⟨.times, rfl⟩
  | div => exact ⟨.divided, rfl⟩
  | rem => exact ⟨.remainder, rfl⟩
  | _ => cases h

/-- A chain ends in front of what is none of its signs. -/
lemma readMore_other {k : Chain} (ts : List Token) (left : Expr) {rest : List Token}
    (h : rest.length < ts.length) (hrest : ∀ (sign : Sign k) more, rest ≠ sign.token :: more) :
    k.readMore ts left rest h = .ok (left, ⟨rest, h⟩) := by
  cases k with
  | or => exact moreOr.eq_2 ts left rest h fun more _ heq _ => hrest .or more heq
  | and => exact moreAnd.eq_2 ts left rest h fun more _ heq _ => hrest .and more heq
  | sum =>
    by_cases hop : ∃ operator more, rest = .op operator :: more
    · obtain ⟨operator, more, rfl⟩ := hop
      refine (moreSum.eq_1 ts left operator more h).trans (if_neg fun hadditive => ?_)
      obtain ⟨sign, hsign⟩ := exists_sum_sign hadditive
      exact hrest sign more (by rw [hsign])
    · exact moreSum.eq_2 ts left rest h fun operator more _ heq _ => hop ⟨operator, more, heq⟩
  | product =>
    by_cases hop : ∃ operator more, rest = .op operator :: more
    · obtain ⟨operator, more, rfl⟩ := hop
      refine (moreProduct.eq_1 ts left operator more h).trans (if_neg fun hmultiplicative => ?_)
      obtain ⟨sign, hsign⟩ := exists_product_sign hmultiplicative
      exact hrest sign more (by rw [hsign])
    · exact moreProduct.eq_2 ts left rest h fun operator more _ heq _ => hop ⟨operator, more, heq⟩

lemma mem_comparisons {operator : Operator} :
    operator ∈ comparisons ↔ operator.isComparison = true := by
  cases operator <;> decide

/-- A result that was read behind a sign of its own. -/
lemma exists_of_weaken {short long : List Token} {hle : short.length ≤ long.length}
    {f : Expr → Expr} {result : Parsed short} {e : Expr}
    {rest : { rest : List Token // rest.length < long.length }}
    (h : Parsed.weaken hle (result.map fun (e, after) => (f e, after)) = .ok (e, rest)) :
    ∃ e' rest', result = .ok (e', rest') ∧ rest'.1 = rest.1 ∧ f e' = e := by
  cases result with
  | error fault => cases h
  | ok found =>
    cases h
    exact ⟨found.1, found.2, rfl, rfl, rfl⟩

/-! ### What is read has a derivation -/

/-- What is read from these tokens as a phrase has a derivation. -/
def Sound (p : Phrase) (ts : List Token) : Prop :=
  ∀ e rest, p.read ts = .ok (e, rest) → ∃ d : Derivation p, d.tokens ++ rest.1 = ts ∧ d.expr = e

section Sound

variable {ts : List Token} (hshorter : ∀ ts', ts'.length < ts.length → ∀ p, Sound p ts')

include hshorter

/-- The rest of a chain is read as links. The induction is on how many tokens there are left. -/
lemma exists_links {k : Chain} {left e : Expr} {mid : List Token} {hmid : mid.length < ts.length}
    {rest : { rest : List Token // rest.length < ts.length }}
    (h : k.readMore ts left mid hmid = .ok (e, rest)) :
    ∃ l : Links k, l.tokens ++ rest.1 = mid ∧ l.after left = e := by
  induction hn : mid.length using Nat.strongRecOn generalizing left mid with
  | ind n ih =>
    subst hn
    by_cases hsign : ∃ (sign : Sign k) (more : List Token), mid = sign.token :: more
    · obtain ⟨sign, more, rfl⟩ := hsign
      have hmore : more.length < ts.length := Nat.lt_of_succ_lt hmid
      rw [readMore_sign] at h
      split at h
      · cases h
      · next right after hafter hright =>
        obtain ⟨next, hnext, rfl⟩ := hshorter more hmore _ _ _ hright
        obtain ⟨l, hl, rfl⟩ := ih after.length (Nat.lt_succ_of_lt hafter) h rfl
        refine ⟨.more sign next l, ?_, by rw [Links.after]⟩
        rw [Links.tokens, List.cons_append, List.append_assoc, hl, hnext]
    · rw [readMore_other ts left hmid fun sign more heq => hsign ⟨sign, more, heq⟩] at h
      cases h
      exact ⟨.done, rfl, rfl⟩

lemma sound_chain {k : Chain} (hitem : Sound k.item ts) : Sound (.chain k) ts := by
  intro e rest h
  rw [read_chain] at h
  split at h
  · cases h
  · next left mid hmid hleft =>
    obtain ⟨first, hfirst, rfl⟩ := hitem _ _ hleft
    obtain ⟨more, hmore, rfl⟩ := exists_links hshorter h
    refine ⟨.chain first more, ?_, by rw [Derivation.expr]⟩
    rw [Derivation.tokens, List.append_assoc, hmore, hfirst]

lemma sound_negation (hcomparison : Sound .comparison ts) : Sound .negation ts := by
  intro e rest h
  rw [Phrase.read] at h
  by_cases hnot : ∃ more, ts = .not :: more
  · obtain ⟨more, rfl⟩ := hnot
    rw [readNot] at h
    obtain ⟨_, rest', hread, hrest, rfl⟩ := exists_of_weaken h
    obtain ⟨inner, hinner, rfl⟩ := hshorter more (Nat.lt_succ_self _) .negation _ _ hread
    refine ⟨.not inner, ?_, by rw [Derivation.expr]⟩
    rw [Derivation.tokens, List.cons_append, ← hrest, hinner]
  · rw [readNot.eq_2 ts fun more heq => hnot ⟨more, heq⟩] at h
    obtain ⟨inner, hinner, rfl⟩ := hcomparison _ _ h
    exact ⟨.plain inner, by rw [Derivation.tokens, hinner], by rw [Derivation.expr]⟩

lemma sound_comparison (hsum : Sound (.chain .sum) ts) : Sound .comparison ts := by
  intro e rest h
  rw [Phrase.read, readComparison] at h
  split at h
  · cases h
  · next left operator mid hmid hleft =>
    obtain ⟨first, hfirst, rfl⟩ := hsum _ _ hleft
    dsimp only at h
    split at h
    · next hcomparison =>
      split at h
      · cases h
      · next right after hafter hright =>
        have hshort : mid.length < ts.length := Nat.lt_of_succ_lt hmid
        obtain ⟨second, hsecond, rfl⟩ := hshorter mid hshort (.chain .sum) _ _ hright
        cases h
        refine ⟨.compare operator (mem_comparisons.mpr hcomparison) first second, ?_,
          by rw [Derivation.expr]⟩
        rw [Derivation.tokens, List.append_assoc, List.cons_append, hsecond, hfirst]
    · cases h
      exact ⟨.single first, by rw [Derivation.tokens, hfirst], by rw [Derivation.expr]⟩
  · next left after _ hleft =>
    obtain ⟨first, hfirst, rfl⟩ := hsum _ _ hleft
    cases h
    exact ⟨.single first, by rw [Derivation.tokens, hfirst], by rw [Derivation.expr]⟩

lemma sound_unary (hprimary : Sound .primary ts) : Sound .unary ts := by
  intro e rest h
  rw [Phrase.read] at h
  by_cases hminus : ∃ more, ts = .op .sub :: more
  · obtain ⟨more, rfl⟩ := hminus
    rw [readUnary] at h
    obtain ⟨_, rest', hread, hrest, rfl⟩ := exists_of_weaken h
    obtain ⟨inner, hinner, rfl⟩ := hshorter more (Nat.lt_succ_self _) .unary _ _ hread
    refine ⟨.minus inner, ?_, by rw [Derivation.expr]⟩
    rw [Derivation.tokens, List.cons_append, ← hrest, hinner]
  · rw [readUnary.eq_2 ts fun more heq => hminus ⟨more, heq⟩] at h
    obtain ⟨inner, hinner, rfl⟩ := hprimary _ _ h
    exact ⟨.bare inner, by rw [Derivation.tokens, hinner], by rw [Derivation.expr]⟩

lemma sound_primary : Sound .primary ts := by
  intro e rest h
  rw [Phrase.read] at h
  unfold readPrimary at h
  split at h
  case h_1 => cases h
  case h_2 f more => cases h; exact ⟨.number f, rfl, by rw [Derivation.expr]⟩
  case h_3 s more => cases h; exact ⟨.string s, rfl, by rw [Derivation.expr]⟩
  case h_4 more => cases h; exact ⟨.null, rfl, by rw [Derivation.expr]⟩
  case h_5 more => cases h; exact ⟨.true, rfl, by rw [Derivation.expr]⟩
  case h_6 more => cases h; exact ⟨.false, rfl, by rw [Derivation.expr]⟩
  case h_7 p more => cases h; exact ⟨.path p, rfl, by rw [Derivation.expr]⟩
  case h_8 more =>
    split at h
    · cases h
    · next inner after hafter hinner =>
      obtain ⟨d, hd, rfl⟩ := hshorter more (Nat.lt_succ_self _) (.chain .or) _ _ hinner
      cases h
      refine ⟨.parentheses d, ?_, by rw [Derivation.expr]⟩
      rw [Derivation.tokens, List.append_assoc, List.cons_append]
      exact congrArg _ hd
    · cases h
  case h_9 => cases h

end Sound

/-- Every reader takes the tokens of a phrase and gives its expression. -/
lemma sound (p : Phrase) (ts : List Token) : Sound p ts := by
  induction hn : ts.length using Nat.strongRecOn generalizing p ts with
  | ind n ih =>
    subst hn
    have hshorter : ∀ ts', ts'.length < ts.length → ∀ p, Sound p ts' :=
      fun ts' hlt p => ih ts'.length hlt p ts' rfl
    have hprimary := sound_primary hshorter
    have hunary := sound_unary hshorter hprimary
    have hproduct : Sound (.chain .product) ts := sound_chain hshorter hunary
    have hsum : Sound (.chain .sum) ts := sound_chain hshorter hproduct
    have hcomparison := sound_comparison hshorter hsum
    have hnegation := sound_negation hshorter hcomparison
    have hand : Sound (.chain .and) ts := sound_chain hshorter hnegation
    match p with
    | .chain .or => exact sound_chain hshorter hand
    | .chain .and => exact hand
    | .negation => exact hnegation
    | .comparison => exact hcomparison
    | .chain .sum => exact hsum
    | .chain .product => exact hproduct
    | .unary => exact hunary
    | .primary => exact hprimary

/-! ### What has a derivation is read -/

/-- The reader of a phrase gives the expression and leaves the rest. -/
def Yields (p : Phrase) (ts : List Token) (e : Expr) (rest : List Token) : Prop :=
  ∃ h, p.read ts = .ok (e, ⟨rest, h⟩)

lemma yields_not {ts rest : List Token} {e : Expr} (h : Yields .negation ts e rest) :
    Yields .negation (.not :: ts) (.not e) rest := by
  obtain ⟨hlt, h⟩ := h
  refine ⟨Nat.lt_succ_of_lt hlt, ?_⟩
  rw [Phrase.read] at h ⊢
  rw [readNot, h]
  rfl

lemma yields_plain {ts rest : List Token} {e : Expr} (h : Yields .comparison ts e rest)
    (hts : ∀ more, ts ≠ .not :: more) : Yields .negation ts e rest := by
  rwa [Yields, Phrase.read, readNot.eq_2 ts hts]

lemma yields_compare {ts mid rest : List Token} {left right : Expr} {operator : Operator}
    (ho : operator ∈ comparisons) (hleft : Yields (.chain .sum) ts left (.op operator :: mid))
    (hright : Yields (.chain .sum) mid right rest) :
    Yields .comparison ts (.binary operator left right) rest := by
  obtain ⟨hmid, hleft⟩ := hleft
  obtain ⟨hrest, hright⟩ := hright
  rw [Phrase.read] at hleft hright
  refine ⟨by simp at hmid; omega, ?_⟩
  rw [Phrase.read, readComparison, hleft]
  simp only [mem_comparisons.mp ho, if_true, hright]

lemma yields_single {ts rest : List Token} {e : Expr} (h : Yields (.chain .sum) ts e rest)
    (hrest : Stops 3 rest) : Yields .comparison ts e rest := by
  obtain ⟨hlt, h⟩ := h
  rw [Phrase.read] at h
  refine ⟨hlt, ?_⟩
  rw [Phrase.read, readComparison, h]
  cases rest with
  | nil => rfl
  | cons t rest =>
    cases t with
    | op operator =>
      have hother : ¬ operator.isComparison = true := fun hcomparison =>
        hrest.ne_comparison (mem_comparisons.mpr hcomparison) rfl
      simp only [hother]
      rfl
    | _ => rfl

lemma yields_minus {ts rest : List Token} {e : Expr} (h : Yields .unary ts e rest) :
    Yields .unary (.op .sub :: ts) (.neg e) rest := by
  obtain ⟨hlt, h⟩ := h
  refine ⟨Nat.lt_succ_of_lt hlt, ?_⟩
  rw [Phrase.read] at h ⊢
  rw [readUnary, h]
  rfl

lemma yields_bare {ts rest : List Token} {e : Expr} (h : Yields .primary ts e rest)
    (hts : ∀ more, ts ≠ .op .sub :: more) : Yields .unary ts e rest := by
  rwa [Yields, Phrase.read, readUnary.eq_2 ts hts]

lemma yields_parentheses {ts rest : List Token} {e : Expr}
    (h : Yields (.chain .or) ts e (.close :: rest)) : Yields .primary (.open :: ts) e rest := by
  obtain ⟨hlt, h⟩ := h
  rw [Phrase.read] at h
  refine ⟨by simp at hlt ⊢; omega, ?_⟩
  rw [Phrase.read, readPrimary, h]

lemma yields_chain {k : Chain} {ts mid rest : List Token} {left e : Expr}
    (hleft : Yields k.item ts left mid)
    (hmore : ∀ h, ∃ h', k.readMore ts left mid h = .ok (e, ⟨rest, h'⟩)) :
    Yields (.chain k) ts e rest := by
  obtain ⟨hmid, hleft⟩ := hleft
  obtain ⟨hrest, hmore⟩ := hmore hmid
  refine ⟨hrest, ?_⟩
  rw [read_chain, hleft]
  exact hmore

mutual

/-- The reader of a phrase takes what a tree derives, up to what does not carry it on. -/
lemma Derivation.yields {p : Phrase} (d : Derivation p) {rest : List Token}
    (hrest : Stops p.level rest) : Yields p (d.tokens ++ rest) d.expr rest := by
  match d with
  | .chain first more =>
    rw [Derivation.tokens, Derivation.expr, List.append_assoc]
    exact yields_chain (first.yields (more.stops hrest)) (more.readMore_eq _ _ hrest)
  | .not inner => exact yields_not (inner.yields hrest)
  | .plain inner =>
    exact yields_plain (inner.yields (hrest.mono (by decide)))
      (inner.tokens_ne_not (by decide) rest)
  | .compare operator ho left right =>
    rw [Derivation.tokens, Derivation.expr, List.append_assoc, List.cons_append]
    exact yields_compare ho (left.yields (stops_comparison ho _))
      (right.yields (hrest.mono (by decide)))
  | .single inner => exact yields_single (inner.yields (hrest.mono (by decide))) hrest
  | .minus inner => exact yields_minus (inner.yields hrest)
  | .bare inner =>
    exact yields_bare (inner.yields (hrest.mono (by decide))) (inner.primary_ne_minus rest)
  | .parentheses inner =>
    rw [Derivation.tokens, Derivation.expr, List.cons_append, List.cons_append,
      List.append_assoc]
    exact yields_parentheses (inner.yields (stops_close _ rest))
  | .number f => exact ⟨Nat.lt_succ_self _, readPrimary.eq_2 f rest⟩
  | .string s => exact ⟨Nat.lt_succ_self _, readPrimary.eq_3 s rest⟩
  | .null => exact ⟨Nat.lt_succ_self _, readPrimary.eq_4 rest⟩
  | .true => exact ⟨Nat.lt_succ_self _, readPrimary.eq_5 rest⟩
  | .false => exact ⟨Nat.lt_succ_self _, readPrimary.eq_6 rest⟩
  | .path p => exact ⟨Nat.lt_succ_self _, readPrimary.eq_7 p rest⟩

/-- The reader of the rest of a chain takes what its links derive. -/
lemma Links.readMore_eq {k : Chain} (l : Links k) {rest : List Token} (ts : List Token)
    (left : Expr) (hrest : Stops (Phrase.chain k).level rest)
    (h : (l.tokens ++ rest).length < ts.length) :
    ∃ h', k.readMore ts left (l.tokens ++ rest) h = .ok (l.after left, ⟨rest, h'⟩) := by
  match l with
  | .done => exact ⟨h, readMore_other ts left h fun _ _ => hrest.ne_sign⟩
  | .more sign next more =>
    obtain ⟨hmid, hnext⟩ := next.yields (more.stops hrest)
    simp only [Links.tokens, List.cons_append, List.append_assoc] at h ⊢
    obtain ⟨hrest', hmore⟩ := more.readMore_eq ts (sign.join left next.expr) hrest
      (by simp at h hmid ⊢; omega)
    refine ⟨hrest', ?_⟩
    rw [readMore_sign, hnext, Links.after]
    exact hmore

end

/-! ### The grammar is what is read -/

/-- A list of tokens has one derivation at most. -/
lemma Derivation.eq_of_tokens_eq {p : Phrase} {d d' : Derivation p} (h : d.tokens = d'.tokens) :
    d = d' :=
  (d.unique d' (congrArg (· ++ []) h) (stops_nil _) (stops_nil _)).1

/-- The tokens of an expression are the tokens of a derivation of it. -/
lemma ofTokens_eq_ok_iff {ts : List Token} {e : Expr} :
    Expr.ofTokens ts = .ok e ↔ ∃ d : Derivation (.chain .or), d.tokens = ts ∧ d.expr = e := by
  constructor
  · intro h
    rw [Expr.ofTokens] at h
    split at h
    · cases h
    · split at h
      · cases h
      · next e' hlt hread =>
        cases h
        obtain ⟨d, hd, he⟩ := sound (.chain .or) ts _ _ hread
        exact ⟨d, by simpa using hd, he⟩
      · cases h
  · rintro ⟨d, rfl, rfl⟩
    have hyields := d.yields (stops_nil _)
    rw [List.append_nil] at hyields
    obtain ⟨hlt, hread⟩ := hyields
    rw [Phrase.read] at hread
    rw [Expr.ofTokens, if_neg (by simpa [List.length_pos_iff] using hlt), hread]

/-- A text with these tokens is read to an expression exactly if the tokens have a derivation that
stands for it; they never have two, and where they have none the text is refused. -/
theorem parse_accepts_grammar {text : String} {ts : List Token} (h : tokens text.toList = .ok ts) :
    (∀ e, Expr.parse text = .ok e ↔ ∃ d : Derivation (.chain .or), d.tokens = ts ∧ d.expr = e) ∧
      (∀ d d' : Derivation (.chain .or), d.tokens = ts → d'.tokens = ts → d = d') ∧
      ((∀ d : Derivation (.chain .or), d.tokens ≠ ts) →
        ∃ fault, Expr.parse text = .error (.condition text fault)) := by
  have hok : ∀ e, Expr.parse text = .ok e ↔ Expr.ofTokens ts = .ok e := by
    intro e
    simp only [Expr.parse, h]
    cases Expr.ofTokens ts <;> simp
  refine ⟨fun e => (hok e).trans ofTokens_eq_ok_iff, ?_, ?_⟩
  · rintro d d' hd rfl
    exact Derivation.eq_of_tokens_eq hd
  · intro hnone
    cases hread : Expr.ofTokens ts with
    | error fault => exact ⟨fault, by simp only [Expr.parse, h, hread]⟩
    | ok e =>
      obtain ⟨d, hd, -⟩ := ofTokens_eq_ok_iff.mp hread
      exact absurd hd (hnone d)

/-! ### A guard -/

/-- A path as a product. -/
def pathFactor (p : String) : Derivation (.chain .product) := .chain (.bare (.path p)) .done

/-- A comparison as one of several alternatives. -/
def alternative (d : Derivation .comparison) : Derivation (.chain .and) := .chain (.plain d) .done

/-- The derivation of a negation and a comparison. -/
def guardDerivation : Derivation (.chain .or) :=
  let path (p : String) : Derivation (.chain .sum) := .chain (pathFactor p) .done
  let inner : Derivation (.chain .or) := .chain (alternative (.single (path "a")))
    (.more .or (alternative (.single (path "b"))) .done)
  let paren : Derivation .comparison :=
    .single (.chain (.chain (.bare (.parentheses inner)) .done) .done)
  let difference : Derivation (.chain .sum) :=
    .chain (pathFactor "c") (.more .minus (pathFactor "d") (.more .minus (pathFactor "e") .done))
  let opposite : Derivation (.chain .sum) :=
    .chain (.chain (.minus (.bare (.path "f"))) .done) .done
  .chain (.chain (.not (.plain paren))
    (.more .and (.plain (.compare .lt (by decide) difference opposite)) .done)) .done

/-- A negation binds less than parentheses and more than a conjunction, and differences lean to the
left. -/
theorem parse_accepts_grammar_guard :
    ∃ ts, tokens "not (a or b) and c - d - e < -f".toList = .ok ts ∧
      Expr.parse "not (a or b) and c - d - e < -f" =
        .ok (.and (.not (.or (.path "a") (.path "b")))
          (.binary .lt (.binary .sub (.binary .sub (.path "c") (.path "d")) (.path "e"))
            (.neg (.path "f")))) := by
  have htokens : tokens "not (a or b) and c - d - e < -f".toList = .ok guardDerivation.tokens := by
    with_unfolding_all rfl
  exact ⟨_, htokens, ((parse_accepts_grammar htokens).1 _).mpr ⟨guardDerivation, rfl, rfl⟩⟩

end QueryLoom.Condition

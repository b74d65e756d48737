import QueryLoom.Proofs.ExpansionState
import QueryLoom.Proofs.MissingIncludes
import QueryLoom.Proofs.Regions
import QueryLoom.Proofs.Tokens.Continued

/-!
# Clauses that are appended

The order of a request is appended to its rendered text, and the limits of a page to the text of its
statement. Neither clause becomes part of a line comment: the order clause begins a new line where
the text may end inside of one, and the layout of a statement ends every line comment with its line.
-/

namespace QueryLoom

/-! ### Renderings for a request -/

namespace Template

/-- What can be rendered for a request: texts that are known, templates, documents with templates in
their texts, and one after the other, each with the text of the one before. -/
inductive Renders (s : Store) : (Expansion → SqlResult (String × Expansion)) → Prop where
  | known (r : SqlResult String) : Renders s fun x => r.map fun text => (text, x)
  | template (name : String) (view : Json) : Renders s (s.render name view)
  | source (text : String) (view : Json) : Renders s (s.renderText text view)
  | document {setting : Markup.Setting Expansion} (h : setting.expand = s.renderText)
      (nodes : List Markup.Node) (bag : Json) :
      Renders s fun x => (Markup.render setting nodes bag x).value
  | next {f : Expansion → SqlResult (String × Expansion)}
      {g : String → Expansion → SqlResult (String × Expansion)} (hf : Renders s f)
      (hg : ∀ text, Renders s (g text)) :
      Renders s fun x => (f x).bind fun (text, x') => g text x'

lemma Renders.follows {s : Store} {f : Expansion → SqlResult (String × Expansion)}
    (h : Renders s f) {x x' : Expansion} {text : String} (hf : f x = .ok (text, x')) :
    x.Follows x' := by
  induction h generalizing x x' text with
  | known r =>
    cases r with
    | error e => cases hf
    | ok found => cases hf; exact .refl x
  | template name view => exact Store.follows_of_render hf
  | source text view => exact Store.follows_of_renderText hf
  | document h nodes bag => exact Markup.follows_of_render h hf
  | @next f g _ _ ihf ihg =>
    dsimp only at hf
    cases hfirst : f x with
    | error e => rw [hfirst] at hf; cases hf
    | ok found =>
      rw [hfirst] at hf
      exact (ihf hfirst).trans (ihg found.1 hf)

end Template

/-! ### Line comments in a text with markers -/

namespace Binding

variable {d : Dialect}

/-- A line comment from position `i` to `j`, as the scan for markers reads it. -/
def LineCommentAt (d : Dialect) (cs : List Char) (i j : Nat) : Prop :=
  ∃ before text after opening, regions d cs = before ++ .verbatim text :: after ∧
    IsLineComment d opening ∧ opening <+: text ∧
    i = (before.flatMap Region.source).length ∧ j = i + text.length

lemma IsCut.exists_of_append {before after : List Region} {r : Region} {cs : List Char}
    (h : IsCut d (before ++ r :: after) cs) :
    ∃ rest, Reads d r rest ∧ cs = before.flatMap Region.source ++ (r.source ++ rest) := by
  induction before generalizing cs with
  | nil =>
    cases h with
    | cons h _ => exact ⟨_, h, rfl⟩
  | cons b before ih =>
    cases h with
    | cons _ h =>
      obtain ⟨rest, hreads, rfl⟩ := ih h
      exact ⟨rest, hreads, by simp⟩

/-- A region that begins like a line comment is one and ends before its line does. -/
lemma Reads.newline_notMem {text opening rest : List Char} (h : Reads d (.verbatim text) rest)
    (ho : IsLineComment d opening) (hopens : opening <+: text) : '\n' ∉ text := by
  obtain ⟨more, hmore⟩ := hopens
  cases h with
  | line opening' ho' ht =>
    rcases ho' with rfl | ⟨-, rfl⟩ <;> simp [ht]
  | quoted hq =>
    rcases ho with rfl | ⟨-, rfl⟩ <;> obtain ⟨rfl, -⟩ := List.cons.inj hmore <;>
      exact absurd hq (by simp [IsQuote])
  | single hc =>
    rcases ho with rfl | ⟨hd, rfl⟩
    · simp at hmore
    · obtain ⟨rfl, -⟩ := List.cons.inj hmore
      exact absurd (.inr (.inl ⟨hd, rfl⟩)) hc
  | _ => rcases ho with rfl | ⟨-, rfl⟩ <;> simp at hmore

/-- A line comment is a piece of one line. -/
lemma LineCommentAt.exists_text {cs : List Char} {i j : Nat} (h : LineCommentAt d cs i j) :
    ∃ front text rest opening, cs = front ++ (text ++ rest) ∧ i = front.length ∧
      j = i + text.length ∧ IsLineComment d opening ∧ opening <+: text ∧ '\n' ∉ text := by
  obtain ⟨before, text, after, opening, hregions, ho, hopens, hi, hj⟩ := h
  have hcut := isCut_regions d cs
  rw [hregions] at hcut
  obtain ⟨rest, hreads, hcs⟩ := hcut.exists_of_append
  exact ⟨_, text, rest, opening, hcs, hi, hj, ho, hopens, hreads.newline_notMem ho hopens⟩

end Binding

/-! ### The order clause -/

namespace Template

/-- What stands behind the last line break of a text decides whether it may end in a comment. -/
lemma mayEndInComment_append {front line opening : List Char} {d : Dialect} (hline : '\n' ∉ line)
    (ho : Binding.IsLineComment d opening) (hopens : opening <+: line) :
    mayEndInComment (front ++ line) = true := by
  have hall : ∀ c ∈ line.reverse, (c != '\n') = true := fun c hc => by
    simpa using fun hn : c = '\n' => hline (hn ▸ List.mem_reverse.mp hc)
  have hlast : ((front ++ line).reverse.takeWhile (· != '\n')).reverse
      = (front.reverse.takeWhile (· != '\n')).reverse ++ line := by
    rw [List.reverse_append, List.takeWhile_append_of_pos hall, List.reverse_append,
      List.reverse_reverse]
  obtain ⟨more, rfl⟩ := hopens
  dsimp only [mayEndInComment]
  rw [hlast]
  rcases ho with rfl | ⟨-, rfl⟩
  · have hpiece := SqlToken.hasPiece_append ['-', '-']
      (front.reverse.takeWhile (· != '\n')).reverse more
    exact Bool.or_eq_true_iff.mpr (.inl hpiece)
  · simp

/-- What is put between a text and a clause behind it. -/
def clauseGap (cs : List Char) : List Char :=
  if mayEndInComment cs then ['\n'] else []

lemma mayEndInComment_of_lineCommentAt {d : Dialect} {cs : List Char} {i : Nat}
    (h : Binding.LineCommentAt d cs i cs.length) : mayEndInComment cs = true := by
  obtain ⟨front, text, rest, opening, hcs, rfl, hj, ho, hopens, hline⟩ := h.exists_text
  have hlength := congrArg List.length hcs
  obtain rfl : rest = [] := by
    rw [← List.length_eq_zero_iff]
    simp only [List.length_append] at hlength
    omega
  rw [hcs, List.append_nil]
  exact mayEndInComment_append hline ho hopens

/-- What begins a line comment begins it in front of a blank. -/
lemma prefix_of_prefix_append_blank {d : Dialect} {opening mine more : List Char}
    (ho : Binding.IsLineComment d opening) (hne : mine ≠ [])
    (h : opening <+: mine ++ ' ' :: more) : opening <+: mine := by
  obtain ⟨c, mine, rfl⟩ := List.exists_cons_of_ne_nil hne
  rcases ho with rfl | ⟨-, rfl⟩
  · cases mine with
    | nil => simp at h
    | cons e mine => simpa using h
  · simpa using h

/-- A line comment that begins in a text does not reach into the clause behind it. -/
lemma le_of_lineCommentAt {d : Dialect} {cs clause : List Char} {i j : Nat}
    (h : Binding.LineCommentAt d (cs ++ (clauseGap cs ++ ' ' :: clause)) i j)
    (hi : i < cs.length) : j ≤ cs.length := by
  obtain ⟨front, text, rest, opening, hcs, rfl, rfl, ho, hopens, hline⟩ := h.exists_text
  by_contra hreach
  -- the comment is cut into the part `mine` inside the text and the part `more` behind it
  obtain ⟨_, hfront, -⟩ | ⟨mine, rfl, hrest⟩ := List.append_eq_append_iff.mp hcs
  · rw [hfront, List.length_append] at hi
    omega
  obtain ⟨_, hmine, -⟩ | ⟨more, rfl, hmore⟩ := List.append_eq_append_iff.mp hrest
  · rw [hmine] at hreach
    simp at hreach
  have hne : mine ≠ [] := by
    rintro rfl
    simp at hi
  obtain ⟨c, more, rfl⟩ : ∃ c more', more = c :: more' := by
    refine List.exists_cons_of_ne_nil fun hnil => ?_
    simp [hnil] at hreach
  rw [List.mem_append, not_or] at hline
  unfold clauseGap at hmore
  split at hmore
  · obtain ⟨rfl, -⟩ := List.cons.inj hmore
    exact hline.2 List.mem_cons_self
  · next hend =>
    obtain ⟨rfl, -⟩ := List.cons.inj hmore
    exact hend (mayEndInComment_append hline.1 ho (prefix_of_prefix_append_blank ho hne hopens))

/-- The clause that asks for the order of a key. -/
def orderClause (key : SortKey) (d : Dialect) : String :=
  " ORDER BY " ++ key.column.toSql d ++ " " ++ key.direction.keyword

/-- A clause stands behind a text, and behind all line comments of it. -/
structure Behind (d : Dialect) (text gap clause : String) : Prop where
  gap_eq : gap = "" ∨ gap = "\n"
  newline : ∀ i, Binding.LineCommentAt d text.toList i text.length → gap = "\n"
  apart : ∀ i j, Binding.LineCommentAt d (text ++ gap ++ clause).toList i j → i < text.length →
    j ≤ text.length

lemma behind_orderClause (d : Dialect) (text : String) (key : SortKey) :
    Behind d text (String.ofList (clauseGap text.toList)) (orderClause key d) where
  gap_eq := by
    unfold clauseGap
    split
    · exact .inr rfl
    · exact .inl rfl
  newline i h := by
    rw [clauseGap, if_pos (mayEndInComment_of_lineCommentAt h)]
  apart i j h hi := by
    have hclause : ∃ more, (orderClause key d).toList = ' ' :: more := by
      simp [orderClause]
    obtain ⟨more, hmore⟩ := hclause
    rw [String.toList_append, String.toList_append, String.toList_ofList, hmore,
      List.append_assoc] at h
    exact le_of_lineCommentAt h hi

/-- The text of a request whose order no block has written. -/
lemma expandWith_eq {s : Store} {f : Expansion → SqlResult (String × Expansion)}
    (hf : Renders s f) {r : Request} {key : SortKey} (hkind : r.kind = .normal)
    (hsort : r.sort? = some key) {d : Dialect} {enums : Clause.EnumTable} {text : String}
    {x : Expansion} (htext : f (.ofRequest r d enums) = .ok (text, x))
    (hwritten : x.orderWritten = false) : expandWith r d enums f
      = .ok (text ++ String.ofList (clauseGap text.toList) ++ orderClause key d) := by
  have hfollows := hf.follows htext
  have horder : x.pendingOrder? = some (key.column.toSql d ++ " " ++ key.direction.keyword) := by
    simp [Expansion.pendingOrder?, hwritten, hfollows.kind, hfollows.orderBy, Expansion.ofRequest,
      hkind, QueryKind.isAggregate, Request.orderBy?, hsort]
  have hgap : String.ofList (clauseGap text.toList)
      = if mayEndInComment text.toList then "\n" else "" := by
    unfold clauseGap
    split <;> rfl
  rw [expandWith, htext, hgap]
  simp [Except.map, appendOrder, horder, orderClause, String.append_assoc]

end Template

/-! ### Printed tokens -/

namespace SqlToken

/-- Whether a token is a comment that ends with its line. -/
def isLineComment : SqlToken → Bool
  | .lineComment _ _ => true
  | _ => false

/-- How a layout prints a token: its text, perhaps with white space in front of it, and for a line
comment with a line break at the end. -/
structure PrintedAs (t : SqlToken) (piece : List Char) : Prop where
  written : ∃ gap ∈ [[], [' '], ['\n']], ∃ ending, piece = gap ++ (t.text ++ ending) ∧
    (ending = [] ∨ isLineComment t = true ∧ ending = ['\n'])
  comment : isLineComment t = true → piece.getLast? = some '\n'

lemma printedAs (p : Place) (breaks : Bool) (t : SqlToken) :
    PrintedAs t (p.gap breaks ++ laidText t) := by
  have hgap : p.gap breaks ∈ [[], [' '], ['\n']] := by
    rcases p.gap_cases breaks with ⟨h, -⟩ | ⟨c, rfl | rfl, h⟩ <;> simp [h]
  cases t with
  | lineComment opening body =>
    by_cases hlast : body.getLast? = some '\n'
    · have hlaid : laidText (.lineComment opening body) = opening ++ body := by
        simp [laidText, hlast]
      exact ⟨⟨_, hgap, [], by simp [hlaid, SqlToken.text], .inl rfl⟩,
        fun _ => by simp [hlaid, List.getLast?_append, hlast]⟩
    · have hlaid : laidText (.lineComment opening body) = opening ++ body ++ ['\n'] := by
        simp [laidText, hlast]
      exact ⟨⟨_, hgap, ['\n'], by simp [hlaid, SqlToken.text], .inr ⟨rfl, rfl⟩⟩,
        fun _ => by simp [hlaid, List.getLast?_append]⟩
  | _ => exact ⟨⟨_, hgap, [], by simp [laidText], .inl rfl⟩, fun h => by cases h⟩

/-- A layout is made up of the printed tokens in their order, white space apart. -/
lemma printed_layFrom (style : FormatStyle) (p : Place) (ts : List SqlToken) :
    ∃ pieces, List.Forall₂ PrintedAs (ts.filter (· ≠ .blank)) pieces ∧
      layFrom style p ts = pieces.flatten := by
  induction ts generalizing p with
  | nil => exact ⟨[], .nil, rfl⟩
  | cons t ts ih =>
    by_cases ht : t = .blank
    · subst ht
      exact ih { p with pending := true }
    · obtain ⟨pieces, hpieces, hlaid⟩ := ih (p.after style t)
      refine ⟨(p.gap (breaksLine style p.depth t) ++ laidText t) :: pieces, ?_, ?_⟩
      · rw [List.filter_cons_of_pos (by simpa using ht)]
        exact .cons (printedAs p _ t) hpieces
      · rw [layFrom_cons style p ht, hlaid, List.flatten_cons, List.append_assoc]

/-- A text that is the printed tokens, one after the other. -/
def Prints (ts : List SqlToken) (cs : List Char) : Prop :=
  ∃ pieces, List.Forall₂ PrintedAs (ts.filter (· ≠ .blank)) pieces ∧ cs = pieces.flatten

end SqlToken

lemma prints_formatSql {sql : String} {d : Dialect} {ts : List SqlToken}
    (h : SqlToken.ofText d sql.toList = .ok ts) (style : FormatStyle) :
    SqlToken.Prints ts (formatSql sql d style).toList := by
  rw [formatSql, h]
  dsimp only
  rw [String.toList_ofList]
  exact SqlToken.printed_layFrom style .first ts

/-! ### Pages -/

namespace Registry

/-- Whatever is loaded for a request was rendered for it. -/
lemma exists_renders_of_load {r : Registry} {candidates : List String} {request : Request}
    {d : Dialect} {text : String}
    (h : (r.load candidates request d).run.value = .ok text) :
    ∃ f, Template.Renders r.store f ∧ Template.expandWith request d r.enums f = .ok text := by
  rw [value_load] at h
  split at h
  · cases h
  · exact ⟨_, .template _ request.view, h⟩
  · next id make hresolve =>
    refine ⟨_, .source (make request) request.view, ?_⟩
    change r.store.expandText r.enums (make request) request d = _
    cases hexpand : r.store.expandText r.enums (make request) request d with
    | error e => rw [hexpand] at h; cases h
    | ok found => rw [hexpand] at h; exact h
  · next nodes hresolve =>
    rw [value_loadTree] at h
    refine ⟨fun x => (Markup.render (r.settingFor candidates d) nodes request.view x).value,
      .document rfl nodes request.view, ?_⟩
    rw [← h]
    change ((r.rendering candidates request d nodes).1.map fun text =>
      (text, (r.rendering candidates request d nodes).2.expansion)).map _ = _
    cases (r.rendering candidates request d nodes).1 <;> rfl

/-- The limits that are appended to the rows of a page. -/
def limitTail (page : PageRequest) (d : Dialect) : String :=
  if page.limitsItself || page.size = 0 then ""
  else " " ++ d.limitClause page.offset page.size.toNat

lemma value_bind {α β : Type} (step : LoggedResult α) (next : α → LoggedResult β) :
    (step >>= next).run.value = step.run.value.bind fun a => (next a).run.value := by
  change (ExceptT.bindCont next step.run.value).value = _
  cases step.run.value <;> rfl

lemma exists_of_value_bind {α β : Type} {step : LoggedResult α} {next : α → LoggedResult β} {b : β}
    (h : (step >>= next).run.value = .ok b) :
    ∃ a, step.run.value = .ok a ∧ (next a).run.value = .ok b := by
  rw [value_bind] at h
  cases hstep : step.run.value with
  | error e => rw [hstep] at h; cases h
  | ok a => exact ⟨a, rfl, by rwa [hstep] at h⟩

lemma sql_of_compile {r : Registry} {candidates : List String} {request : Request}
    {config : Config} {statement : Statement}
    (h : (r.compile candidates request config).run.value = .ok statement) :
    ∃ text bound, (r.load candidates request config.dialect).run.value = .ok text ∧
      Binding.bind text request.params config.dialect = .ok bound ∧
      statement.sql = formatSql bound.sql config.dialect config.format := by
  obtain ⟨text, hload, h⟩ := exists_of_value_bind h
  obtain ⟨bound, hbind, h⟩ := exists_of_value_bind h
  refine ⟨text, bound, hload, hbind, ?_⟩
  dsimp only at h
  split at h <;> obtain rfl := Except.ok.inj h <;> rfl

lemma sql_of_compilePage {r : Registry} {candidates : List String} {page : PageRequest}
    {request : Request} {config : Config} {plan : PagePlan}
    (h : (r.compilePage candidates page request config).run.value = .ok plan) :
    ∃ text bound, (r.load candidates { request.paged page with kind := .normal }
        config.dialect).run.value = .ok text ∧
      Binding.bind text (request.paged page).params config.dialect = .ok bound ∧
      plan.records.sql = formatSql bound.sql config.dialect config.format ++
        limitTail page config.dialect := by
  obtain ⟨rows, hrows, h⟩ := exists_of_value_bind h
  obtain ⟨count?, -, h⟩ := exists_of_value_bind h
  obtain ⟨sum?, -, h⟩ := exists_of_value_bind h
  obtain rfl := Except.ok.inj h
  obtain ⟨text, bound, hload, hbind, hsql⟩ := sql_of_compile hrows
  refine ⟨text, bound, hload, hbind, ?_⟩
  rw [← hsql]
  rfl

end Registry

/-! ### Appended clauses -/

/-- The order clause of a request whose text has no order block stands behind the text and all line
comments of it. A layout prints every line comment with a line break at its end, so the limits of a
page, which stand behind the layout of its statement, are in none of them. -/
theorem appended_clauses_uncommented :
    (∀ (s : Template.Store) (f : Expansion → SqlResult (String × Expansion)),
      Template.Renders s f → ∀ (r : Request) (key : SortKey), r.kind = .normal →
      r.sort? = some key → ∀ d enums text x, f (.ofRequest r d enums) = .ok (text, x) →
      x.orderWritten = false →
        ∃ gap, Template.expandWith r d enums f
            = .ok (text ++ gap ++ Template.orderClause key d) ∧
          Template.Behind d text gap (Template.orderClause key d)) ∧
    (∀ (sql : String) (d : Dialect) (ts : List SqlToken),
      SqlToken.ofText d sql.toList = .ok ts →
        ∀ style, SqlToken.Prints ts (formatSql sql d style).toList) ∧
    (∀ (r : Registry) candidates request d text,
      (r.load candidates request d).run.value = .ok text →
        ∃ f, Template.Renders r.store f ∧
          Template.expandWith request d r.enums f = .ok text) ∧
    ∀ (r : Registry) candidates page request (config : Config) plan,
      (r.compilePage candidates page request config).run.value = .ok plan →
        ∃ text bound, (r.load candidates { request.paged page with kind := .normal }
            config.dialect).run.value = .ok text ∧
          Binding.bind text (request.paged page).params config.dialect = .ok bound ∧
          plan.records.sql = formatSql bound.sql config.dialect config.format ++
            Registry.limitTail page config.dialect ∧
          ∀ ts, SqlToken.ofText config.dialect bound.sql.toList = .ok ts →
            SqlToken.Prints ts (formatSql bound.sql config.dialect config.format).toList := by
  refine ⟨?_, fun sql d ts h style => prints_formatSql h style, ?_, ?_⟩
  · intro s f hf r key hkind hsort d enums text x htext hwritten
    exact ⟨_, Template.expandWith_eq hf hkind hsort htext hwritten,
      Template.behind_orderClause d text key⟩
  · intro r candidates request d text h
    exact Registry.exists_renders_of_load h
  · intro r candidates page request config plan h
    obtain ⟨text, bound, hload, hbind, hsql⟩ := Registry.sql_of_compilePage h
    exact ⟨text, bound, hload, hbind, hsql, fun ts h => prints_formatSql h config.format⟩

/-- A registry with a query that ends in a comment. -/
def commentedQuery : Registry :=
  ⟨[("q", .text "SELECT 1 -- a")], [("q", ⟨[.text "SELECT 1 -- a"], []⟩)], []⟩

/-- A request for rows in an order. -/
def newestFirst : Request :=
  { Request.standard with sort? := some ⟨⟨[.plain "id"]⟩, .desc⟩ }

/-- A query that ends in a comment, in an order, and the second page of its rows. -/
theorem appended_clauses_uncommented_query :
    Template.expandWith newestFirst .mysql []
        (commentedQuery.store.renderText "SELECT 1 -- a" .null)
      = .ok "SELECT 1 -- a\n ORDER BY id DESC" ∧
    SqlToken.Prints [.word "SELECT".toList, .blank, .number "1".toList false, .blank,
        .lineComment "--".toList " a".toList] (formatSql "SELECT 1 -- a" .mysql .pretty).toList ∧
    (∃ f, Template.Renders commentedQuery.store f ∧
      Template.expandWith newestFirst .mysql [] f = .ok "SELECT 1 -- a\n ORDER BY id DESC") ∧
    ∃ plan, (commentedQuery.compilePage ["q"] (.ofNumber 2 10) .standard .standard).run.value
        = .ok plan ∧ plan.records.sql = "SELECT 1 -- a\n LIMIT 10, 10" := by
  refine ⟨?_, appended_clauses_uncommented.2.1 _ .mysql _ rfl .pretty,
    appended_clauses_uncommented.2.2.1 commentedQuery ["q"] newestFirst .mysql _ rfl, ?_⟩
  · obtain ⟨gap, hexpand, hbehind⟩ := appended_clauses_uncommented.1 commentedQuery.store
      (commentedQuery.store.renderText "SELECT 1 -- a" .null) (.source _ _) newestFirst _ rfl rfl
      .mysql [] "SELECT 1 -- a" _ rfl rfl
    have hcomment : Binding.LineCommentAt .mysql "SELECT 1 -- a".toList 9 13 :=
      ⟨"SELECT 1 ".toList.map fun c => .verbatim [c], "-- a".toList, [], ['-', '-'],
        by decide +kernel, .inl rfl, ⟨" a".toList, rfl⟩, rfl, rfl⟩
    rw [hexpand, hbehind.newline 9 hcomment]
    rfl
  · obtain ⟨plan, hplan⟩ : ∃ plan, (commentedQuery.compilePage ["q"] (.ofNumber 2 10) .standard
        .standard).run.value = .ok plan := ⟨_, by with_unfolding_all rfl⟩
    obtain ⟨text, bound, hload, hbind, hsql, -⟩ :=
      appended_clauses_uncommented.2.2.2 _ _ _ _ _ _ hplan
    have htext : (commentedQuery.load ["q"]
        { Request.standard.paged (.ofNumber 2 10) with kind := .normal }
        Config.standard.dialect).run.value = .ok "SELECT 1 -- a" := rfl
    obtain rfl := Except.ok.inj (htext.symm.trans hload)
    have hbound : Binding.bind "SELECT 1 -- a" (Request.standard.paged (.ofNumber 2 10)).params
        Config.standard.dialect = .ok ⟨"SELECT 1 -- a", []⟩ := by
      with_unfolding_all rfl
    obtain rfl := Except.ok.inj (hbound.symm.trans hbind)
    refine ⟨plan, hplan, hsql.trans ?_⟩
    rfl

end QueryLoom

import QueryLoom.Entity.Schema
import QueryLoom.Proofs.Ddl.Reader
import QueryLoom.Proofs.SpelledIdents

/-!
# Table definitions

A MySQL definition is a list of items between commas: columns, the primary key and keys. Outside of
its quotes no text of a column has a parenthesis behind a blank, which every key has behind its
name. So the definition is read for exactly the keys among its items.
-/

namespace QueryLoom.Ddl

open Binding (IsQuote)
open Dml (toString_text)

/-! ### Column definitions -/

/-- A text without quotes, in which every parenthesis follows a character other than a blank. -/
structure Calm (cs : List Char) : Prop where
  unquoted : ∀ c ∈ cs, ¬ IsQuote c
  unkeyed : Unkeyed cs

instance (cs : List Char) : Decidable (Calm cs) :=
  decidable_of_iff (cs.all (fun c => decide (¬ IsQuote c)) = true ∧ Unkeyed cs)
    ⟨fun ⟨h, h'⟩ => ⟨by simpa using h, h'⟩, fun ⟨h, h'⟩ => ⟨by simpa using h, h'⟩⟩

lemma Calm.append {cs cs' : List Char} (h : Calm cs) (h' : Calm cs') : Calm (cs ++ cs') :=
  ⟨List.forall_mem_append.mpr ⟨h.unquoted, h'.unquoted⟩, h.unkeyed.append h'.unkeyed⟩

/-- A character of a number, of a word or of the name of an index. -/
def isWordChar (c : Char) : Bool := c.isAlphanum || c == '.' || c == '-' || c == '+' || c == '_'

lemma notMem_of_all {cs : List Char} (h : cs.all isWordChar = true) {x : Char}
    (hx : isWordChar x = false) : x ∉ cs := by
  intro hmem
  rw [List.all_eq_true.mp h x hmem] at hx
  cases hx

lemma calm_of_all {cs : List Char} (h : cs.all isWordChar = true) : Calm cs := by
  refine ⟨fun c hc => ?_,
    unkeyed_of_notMem (notMem_of_all h (by decide)) (notMem_of_all h (by decide))⟩
  rintro (rfl | rfl | rfl) <;> exact notMem_of_all h (by decide) hc

lemma all_toDigits (n : Nat) : (Nat.toDigits 10 n).all isWordChar = true := by
  refine List.all_eq_true.mpr fun c hc => ?_
  have hdigit : c.isDigit = true := Nat.isDigit_of_mem_toDigits (by omega) (by omega) hc
  simp [isWordChar, Char.isAlphanum, hdigit]

lemma calm_natText (n : Nat) : Calm (toString n).toList := by
  rw [Nat.toString_eq_repr, Nat.toList_repr]
  exact calm_of_all (all_toDigits n)

lemma calm_intText (n : Int) : Calm (toString n).toList := by
  cases n with
  | ofNat n => exact calm_natText n
  | negSucc n =>
    have htext : toString (Int.negSucc n) = "-" ++ toString (n + 1) := rfl
    rw [htext, String.toList_append]
    exact Calm.append (by decide) (calm_natText _)

lemma all_shortest (f : Float) : (Decimal.shortest f).digits.all isWordChar = true := by
  unfold Decimal.shortest
  dsimp only
  split
  · rfl
  · refine List.all_eq_true.mpr fun c hc => ?_
    rw [Decimal.dropTrailingZeros, List.mem_reverse] at hc
    have hmem := List.mem_reverse.mp ((List.dropWhile_sublist _).mem hc)
    exact List.all_eq_true.mp (all_toDigits _) c hmem

lemma all_positional {t : Decimal.Digits} (h : t.digits.all isWordChar = true) :
    t.positional.all isWordChar = true := by
  have hzeros (n : Nat) : (List.replicate n '0').all isWordChar = true := by
    simp [isWordChar]
  have hsome {cs : List Char} (hcs : cs.all isWordChar = true) :
      (if cs.isEmpty then ['0'] else cs).all isWordChar = true := by
    split
    · rfl
    · exact hcs
  have hsub {cs : List Char} (hcs : cs ⊆ t.digits) : cs.all isWordChar = true :=
    List.all_eq_true.mpr fun c hc => List.all_eq_true.mp h c (hcs hc)
  unfold Decimal.Digits.positional
  split
  · rw [List.all_append, List.all_append, hzeros, hsome h]
    rfl
  · dsimp only
    rw [List.all_append, List.all_append, List.all_append, hsub (List.take_subset _ _), hzeros,
      hsome (hsub (List.drop_subset _ _))]
    rfl

lemma all_scientific {t : Decimal.Digits} (h : t.digits.all isWordChar = true)
    (exponentPlus : Bool) : (t.scientific exponentPlus).all isWordChar = true := by
  unfold Decimal.Digits.scientific
  extract_lets exponent sign mantissa
  have hsign : sign.all isWordChar = true := by
    unfold sign
    split
    · rfl
    · split <;> rfl
  have hmantissa : mantissa.all isWordChar = true := by
    unfold mantissa
    split
    · rfl
    · next c hdigits => rwa [← hdigits]
    · next c rest _ hdigits =>
      rw [hdigits, List.all_cons] at h
      rw [List.all_cons, List.all_cons, ← h]
      rfl
  rw [List.all_append, List.all_append, List.all_append, all_toDigits, hsign, hmantissa]
  rfl

lemma calm_floatText (f : Float) : Calm (Json.floatText f).toList := by
  unfold Json.floatText Decimal.Layout.render
  split
  · extract_lets t leading body
    have hbody : body.all isWordChar = true := by
      unfold body
      split
      · exact all_positional (all_shortest f)
      · exact all_scientific (all_shortest f) _
    rw [String.toList_ofList]
    split
    · exact calm_of_all (by rwa [List.all_cons])
    · exact calm_of_all hbody
  · decide

lemma calm_sized {name : String} (hname : Calm (name ++ "(").toList) (standard : Nat)
    (length? : Option Nat) : Calm (ColumnType.sized name standard length?).toList := by
  simp only [ColumnType.sized, toString_text, String.toList_append] at hname ⊢
  exact (hname.append (calm_natText _)).append (by decide)

lemma calm_precise {name : String} (hname : Calm name.toList) (hopen : Calm (name ++ "(").toList)
    (length? scale? : Option Nat) : Calm (ColumnType.precise name length? scale?).toList := by
  unfold ColumnType.precise
  rw [String.toList_append] at hopen
  split
  · simp only [toString_text, String.toList_append]
    exact (((hopen.append (calm_natText _)).append (by decide)).append (calm_natText _)).append
      (by decide)
  · simp only [toString_text, String.toList_append]
    exact (hopen.append (calm_natText _)).append (by decide)
  · exact hname

lemma calm_type (t : ColumnType) (length? scale? : Option Nat) :
    Calm (t.ddl .mysql length? scale?).toList := by
  cases t
  case char => exact calm_sized (by decide) 1 length?
  case varchar => exact calm_sized (by decide) 255 length?
  case decimal => exact calm_precise (by decide) (by decide) length? scale?
  all_goals
    dsimp only [ColumnType.ddl, ColumnType.mysqlText]
    decide

/-- Outside of the quotes of a text no parenthesis stands behind a blank. -/
def Passed (text : List Char) : Prop := ∃ bare, Bares .mysql text bare ∧ Unkeyed bare

lemma Calm.passed {text : List Char} (h : Calm text) : Passed text :=
  ⟨text, bares_of_forall h.unquoted, h.unkeyed⟩

lemma Passed.append {text more : List Char} (h : Passed text) (h' : Passed more)
    (hhead : ∀ c ∈ more.head?, ¬ IsQuote c) : Passed (text ++ more) := by
  obtain ⟨bare, hbare, hunkeyed⟩ := h
  obtain ⟨bare', hbare', hunkeyed'⟩ := h'
  exact ⟨bare ++ bare', hbare.append hbare' hhead, hunkeyed.append hunkeyed'⟩

lemma Passed.append_left {text more : List Char} (htext : Calm text) (h : Passed more) :
    Passed (text ++ more) := by
  obtain ⟨bare, hbare, hunkeyed⟩ := h
  exact ⟨text ++ bare, .append_left htext.unquoted hbare, htext.unkeyed.append hunkeyed⟩

lemma passed_quoteLiteral (value : String) : Passed (Dialect.quoteLiteral .mysql value).toList :=
  ⟨[], bares_quoteLiteral .mysql value, by decide⟩

lemma passed_defaultLiteral (v : Json) : Passed (defaultLiteral .mysql v).toList := by
  cases v with
  | null => exact Calm.passed (by decide)
  | bool b => cases b <;> exact Calm.passed (by decide)
  | int n => exact (calm_intText n).passed
  | float f => exact (calm_floatText f).passed
  | string s => exact passed_quoteLiteral s
  | array items => exact passed_quoteLiteral _
  | object entries => exact passed_quoteLiteral _

lemma notMem_bareName {p : IdentPart} (hp : Dml.Legible p) {x : Char}
    (hx : Ident.isPlainChar x = false) : x ∉ bareName p := by
  cases p with
  | plain name => exact Ident.notMem_of_isPlain hp hx
  | quoted name => exact List.not_mem_nil

lemma passed_columnSql {f : Field} (hf : Dml.Legible f.part) :
    Passed (f.columnSql .mysql).toList :=
  ⟨bareName f.part, bares_part .mysql hf,
    unkeyed_of_notMem (notMem_bareName hf (by decide)) (notMem_bareName hf (by decide))⟩

lemma passed_columnDdl {f : Field} (hf : Dml.Legible f.part) :
    Passed (f.columnDdl .mysql).toList := by
  have hnull : Calm (if f.nullable then "" else " NOT NULL").toList := by
    split <;> decide
  unfold Field.columnDdl FieldDecl.ddlFor
  simp only [String.toList_append, List.append_assoc]
  refine (passed_columnSql hf).append ?_ (by simp [IsQuote])
  refine .append_left (by decide) (.append_left (calm_type f.type _ _) (.append_left hnull ?_))
  refine Passed.append ?_ ?_ ?_
  · cases f.default? with
    | none => exact Calm.passed (by decide)
    | some value =>
      dsimp only
      rw [String.toList_append]
      exact .append_left (by decide) (passed_defaultLiteral value)
  · cases f.comment? with
    | none => exact Calm.passed (by decide)
    | some comment =>
      dsimp only
      rw [String.toList_append]
      exact .append_left (by decide) (passed_quoteLiteral comment)
  · cases f.comment? with
    | none => simp
    | some comment => simp [IsQuote]

/-! ### Items of a definition -/

/-- An item of the definition of a table. -/
inductive Item where
  | column (f : Field)
  | primary (keys : List Field)
  | key (name : String) (f : Field)

namespace Item

/-- An item as it is written. -/
def text : Item → String
  | .column f => f.columnDdl .mysql
  | .primary keys => s!"PRIMARY KEY ({columnList keys .mysql})"
  | .key name f => s!"KEY {name} ({f.columnSql .mysql})"

/-- The names of the keys of an item. -/
def names : Item → List String
  | .column _ => []
  | .primary _ => []
  | .key name _ => [name]

/-- The fields of an item. -/
def fields : Item → List Field
  | .column f => [f]
  | .primary keys => keys
  | .key _ f => [f]

/-- The columns are read back and a name ends where it is written. -/
structure Sound (i : Item) : Prop where
  legible : ∀ f ∈ i.fields, Dml.Legible f.part
  names : ∀ name ∈ i.names, name.toList.all isWordChar = true

end Item

/-- Outside of its quotes an item gives its keys, whatever closes the definition. -/
lemma Item.exists_bare {i : Item} (hi : i.Sound) :
    ∃ bare, Bares .mysql i.text.toList bare ∧
      ∀ close, Calm close → ',' ∉ close → keyNames (' ' :: (bare ++ close)) = i.names := by
  have hend : Bares .mysql ")".toList ")".toList := bares_of_forall (by simp [IsQuote])
  cases i with
  | column f =>
    obtain ⟨bare, hbare, hunkeyed⟩ := passed_columnDdl (hi.legible f List.mem_cons_self)
    exact ⟨bare, hbare, fun close hclose _ =>
      Unopened.keyNames_eq_nil (hunkeyed.append hclose.unkeyed)⟩
  | primary keys =>
    have hkeys : Passed (columnList keys .mysql).toList :=
      exists_bare_intercalate (by decide) (by simp [IsQuote]) (by decide) (by decide)
        Unkeyed.append fun f hf => passed_columnSql (hi.legible f hf)
    obtain ⟨bare, hbare, hunkeyed⟩ := hkeys
    refine ⟨"PRIMARY KEY (".toList ++ (bare ++ ")".toList), ?_, fun close hclose _ => ?_⟩
    · simp only [text, toString_text, String.toList_append, List.append_assoc]
      exact .append_left (by simp [IsQuote]) (hbare.append hend (by simp [IsQuote]))
    · have hrest : Unkeyed (bare ++ ")".toList ++ close) :=
        (hunkeyed.append (by decide)).append hclose.unkeyed
      rw [List.append_assoc]
      exact @keyNames_append_eq_nil " PRIMARY KEY (".toList _ (by decide) (by decide) hrest.unopened
  | key name f =>
    have hf := hi.legible f List.mem_cons_self
    have hname := hi.names name List.mem_cons_self
    have hcalm := (calm_of_all hname).unquoted
    refine ⟨"KEY ".toList ++ (name.toList ++ (" (".toList ++ (bareName f.part ++ ")".toList))), ?_,
      fun close _ hcomma => ?_⟩
    · simp only [text, toString_text, String.toList_append, List.append_assoc]
      refine .append_left (by simp [IsQuote]) (.append_left hcalm ?_)
      refine .append_left (by simp [IsQuote]) ?_
      exact (bares_part .mysql hf).append hend (by simp [IsQuote])
    · have hword : ∀ c ∈ name.toList, c ≠ ' ' ∧ c ≠ ',' := by
        refine fun c hc => ⟨?_, ?_⟩ <;> rintro rfl <;> exact notMem_of_all hname (by decide) hc
      have hrest : ',' ∉ bareName f.part ++ ")".toList ++ close := by
        simp only [List.mem_append, not_or]
        exact ⟨⟨notMem_bareName hf (by decide), by decide⟩, hcomma⟩
      have hkey := keyNames_key hword hrest
      simp only [List.append_assoc] at hkey ⊢
      exact hkey

/-- The items behind the first column give their keys one after the other. -/
lemma exists_bare_items {close : List Char} (hclose : Calm close) (hcomma : ',' ∉ close)
    {items : List Item} (hitems : ∀ i ∈ items, i.Sound) :
    ∃ bare, Bares .mysql (items.flatMap fun i => ", ".toList ++ i.text.toList) bare ∧
      ∀ front names, keyNames front = names → keyNames (front ++ close) = names →
        keyNames (front ++ (bare ++ close)) = names ++ items.flatMap Item.names := by
  -- The text in front ends inside a piece that goes on with the closing text if no item is left.
  induction items with
  | nil => exact ⟨[], bares_of_forall (by simp), fun front names _ h => by simpa using h⟩
  | cons i items ih =>
    obtain ⟨hi, hitems⟩ := List.forall_mem_cons.mp hitems
    obtain ⟨bare, hbare, hnames⟩ := Item.exists_bare hi
    obtain ⟨bare', hbare', hnames'⟩ := ih hitems
    refine ⟨", ".toList ++ bare ++ bare', ?_, fun front names hfront _ => ?_⟩
    · refine .append (.append_left (by simp [IsQuote]) hbare) hbare' ?_
      cases items <;> simp [IsQuote]
    · have hsplit : front ++ (", ".toList ++ bare ++ bare' ++ close)
          = front ++ ',' :: (' ' :: bare ++ (bare' ++ close)) := by simp
      have halone : keyNames (' ' :: bare) = i.names := by
        simpa using hnames [] (by decide) (by simp)
      rw [hsplit, keyNames_append_cons, hfront,
        hnames' (' ' :: bare) i.names halone (hnames close hclose hcomma), List.flatMap_cons]

/-! ### Definitions -/

/-- What stands in front of the name of a table. -/
def opening (temporary : Bool) : String :=
  if temporary then "CREATE TEMPORARY TABLE IF NOT EXISTS " else "CREATE TABLE IF NOT EXISTS "

/-- What stands behind the items of a definition. -/
def closing (temporary : Bool) : String :=
  ")" ++ if temporary then Dialect.tempTableSuffix .mysql else ""

/-- The definition of a table. -/
def definition (temporary : Bool) (table : String) (items : List Item) : String :=
  let body := ", ".intercalate (items.map Item.text)
  s!"{opening temporary}{table} ({body}{closing temporary}"

lemma calm_closing (temporary : Bool) : Calm (closing temporary).toList := by
  cases temporary <;> decide

lemma comma_notMem_closing (temporary : Bool) : ',' ∉ (closing temporary).toList := by
  cases temporary <;> decide

/-- What stands outside of the quotes of a definition whose table and items are known outside of
their quotes. -/
lemma outsideQuotes_definition (temporary : Bool) {table : String}
    {bareTable bareItems : List Char} {items : List Item}
    (htable : Bares .mysql table.toList bareTable)
    (hitems : Bares .mysql (", ".intercalate (items.map Item.text)).toList bareItems) :
    outsideQuotes .mysql (definition temporary table items).toList
      = (opening temporary).toList ++ (bareTable ++ (" (".toList ++
        (bareItems ++ (closing temporary).toList))) := by
  have hopening : ∀ c ∈ (opening temporary).toList, ¬ IsQuote c := by
    cases temporary <;> simp [opening, IsQuote]
  have hclosing := (calm_closing temporary).unquoted
  have hall : Bares .mysql (definition temporary table items).toList
      ((opening temporary).toList ++ (bareTable ++ (" (".toList ++
        (bareItems ++ (closing temporary).toList)))) := by
    simp only [definition, toString_text, String.toList_append, List.append_assoc]
    refine .append_left hopening (htable.append (.append_left (by simp [IsQuote]) ?_) ?_)
    · exact hitems.append (bares_of_forall hclosing) fun c hc =>
        hclosing c (List.mem_of_mem_head? hc)
    · simp [IsQuote]
  simpa [outsideQuotes] using hall [] (by simp)

/-- Up to its first item a definition has no key. -/
lemma keyNames_opening (temporary : Bool) {bareTable : List Char} (hplain : ',' ∉ bareTable)
    {cs : List Char} (hcs : Unkeyed cs) :
    keyNames ((opening temporary).toList ++ bareTable ++ " (".toList ++ cs) = [] := by
  refine keyNames_append_eq_nil ?_ ?_ hcs.unopened
  · cases temporary <;> rfl
  · simp only [List.mem_append, not_or]
    refine ⟨⟨?_, hplain⟩, by decide⟩
    cases temporary <;> decide

/-- A definition with columns is read for the keys behind them. -/
lemma indexNames_definition (temporary : Bool) {table : String} {bareTable : List Char}
    (htable : Bares .mysql table.toList bareTable) (hplain : ',' ∉ bareTable)
    {fields : List Field} (hfields : ∀ f ∈ fields, Dml.Legible f.part) {items : List Item}
    (hitems : ∀ i ∈ items, i.Sound) (hnil : fields = [] → items = []) :
    indexNames .mysql ⟨definition temporary table (fields.map .column ++ items), []⟩
      = items.flatMap Item.names := by
  have hmysql : Dialect.mysql.inlineIndexes = true := rfl
  have hclose := calm_closing temporary
  rw [indexNames, if_pos hmysql]
  cases fields with
  | nil =>
    have hnone : Bares .mysql (", ".intercalate (([] : List Item).map Item.text)).toList [] :=
      bares_of_forall (by simp)
    have hkeys := keyNames_opening temporary hplain hclose.unkeyed
    rw [hnil rfl, List.map_nil, List.nil_append, outsideQuotes_definition temporary htable hnone,
      List.nil_append, List.flatMap_nil]
    simpa only [List.append_assoc] using hkeys
  | cons f fields =>
    obtain ⟨hf, hfields⟩ := List.forall_mem_cons.mp hfields
    obtain ⟨column, hcolumn, hunkeyed⟩ := passed_columnDdl hf
    have hothers : ∀ i ∈ fields.map Item.column ++ items, i.Sound := by
      refine List.forall_mem_append.mpr ⟨List.forall_mem_map.mpr fun g hg => ?_, hitems⟩
      exact ⟨by simpa [Item.fields] using hfields g hg, by simp [Item.names]⟩
    obtain ⟨rest, hrest, hnames⟩ :=
      exists_bare_items hclose (comma_notMem_closing temporary) hothers
    have hbody : Bares .mysql (", ".intercalate
          ((.column f :: (fields.map Item.column ++ items)).map Item.text)).toList
        (column ++ rest) := by
      rw [String.toList_intercalate, List.map_map, Sql.intercalate_cons_eq]
      refine hcolumn.append hrest ?_
      cases fields.map Item.column ++ items <;> simp [IsQuote]
    have hend := keyNames_opening temporary hplain (hunkeyed.append hclose.unkeyed)
    have hkeys := hnames _ [] (keyNames_opening temporary hplain hunkeyed)
      (by rwa [← List.append_assoc] at hend)
    have hcolumns : (fields.map Item.column).flatMap Item.names = [] := by
      simp [Item.names]
    rw [List.map_cons, List.cons_append, outsideQuotes_definition temporary htable hbody]
    simpa only [List.append_assoc, List.nil_append, List.flatMap_append, hcolumns] using hkeys

lemma exists_bare_table {id : Ident} (h : ∀ p ∈ id.parts, Dml.Legible p) :
    ∃ bare, Bares .mysql (id.toSql .mysql).toList bare ∧ ',' ∉ bare := by
  refine exists_bare_intercalate (by decide) (by simp [IsQuote]) (by simp) (by decide) ?_ ?_
  · exact fun h h' => by simpa using ⟨h, h'⟩
  · exact fun p hp =>
      ⟨bareName p, bares_part .mysql (h p hp), notMem_bareName (h p hp) (by decide)⟩

end QueryLoom.Ddl

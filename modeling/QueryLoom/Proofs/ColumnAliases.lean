import Mathlib.Data.List.DropRight
import QueryLoom.Proofs.SpelledIdents
import QueryLoom.Proofs.TrimmedText
import QueryLoom.Template.Clause

/-!
# Aliases of columns

A column gets an alias in camel spelling. Of a qualified column only the letters and digits in
front of the dot are dropped, so the alias is that of the bare column exactly if the qualifier has
nothing else.
-/

namespace QueryLoom.Clause

open Ident (isPlain isPlainChar isPlainChar_of_isPlain notMem_of_isPlain isAsciiAlphanumeric_eq)

/-! ### Dropped qualifiers -/

/-- What stays of a qualifier: the letters and digits at its end go with the dot, and without any
the dot stays. -/
def undropped (q : List Char) : List Char :=
  if (q.rtakeWhile Text.isAsciiAlphanumeric).isEmpty then q ++ ['.']
  else q.rdropWhile Text.isAsciiAlphanumeric

lemma dropQualifier_of_notMem {cs : List Char} (h : '.' ∉ cs) (run : List Char) :
    dropQualifier run cs = run.reverse ++ cs := by
  fun_induction dropQualifier run cs with
  | case1 run => simp
  | case2 run c cs hc ih => simp [ih (List.not_mem_of_not_mem_cons h)]
  | case3 run c cs _ hdot => simp_all
  | case4 run c cs _ _ ih => simp [ih (List.not_mem_of_not_mem_cons h)]

lemma dropQualifier_alphanumeric {more : List Char}
    (h : ∀ c ∈ more, Text.isAsciiAlphanumeric c = true) (run cs : List Char) :
    dropQualifier run (more ++ cs) = dropQualifier (more.reverse ++ run) cs := by
  induction more generalizing run with
  | nil => rfl
  | cons c more ih =>
    obtain ⟨hc, hmore⟩ := List.forall_mem_cons.mp h
    simp [dropQualifier, hc, ih hmore]

/-- Behind a character that is no letter, digit or dot the search begins again. -/
lemma dropQualifier_restart {front : List Char} (h : '.' ∉ front) {x : Char} (hdot : x ≠ '.')
    (hx : Text.isAsciiAlphanumeric x = false) (run cs : List Char) :
    dropQualifier run (front ++ x :: cs) = run.reverse ++ (front ++ x :: dropQualifier [] cs) := by
  induction front generalizing run with
  | nil => simp [dropQualifier, hx, hdot]
  | cons c front ih =>
    obtain ⟨hc, hfront⟩ : '.' ≠ c ∧ '.' ∉ front := by simpa using h
    simp only [List.cons_append, dropQualifier, ih hfront]
    split
    · simp
    · simp [hc.symm]

lemma dropQualifier_qualified {q c : List Char} (hq : '.' ∉ q) (hc : '.' ∉ c) :
    dropQualifier [] (q ++ '.' :: c) = undropped q ++ c := by
  have hcut : q.rdropWhile Text.isAsciiAlphanumeric ++ q.rtakeWhile Text.isAsciiAlphanumeric = q :=
    List.rdropWhile_append_rtakeWhile
  have hrun : ∀ x ∈ q.rtakeWhile Text.isAsciiAlphanumeric, Text.isAsciiAlphanumeric x = true :=
    fun _ => List.mem_rtakeWhile_imp
  have hlast := List.rdropWhile_last_not Text.isAsciiAlphanumeric q
  rw [undropped]
  generalize q.rdropWhile Text.isAsciiAlphanumeric = front at hcut hlast ⊢
  generalize q.rtakeWhile Text.isAsciiAlphanumeric = run at hcut hrun ⊢
  subst hcut
  have hfront : dropQualifier [] (front ++ (run ++ '.' :: c))
      = front ++ dropQualifier [] (run ++ '.' :: c) := by
    rcases List.eq_nil_or_concat front with rfl | ⟨front, x, rfl⟩
    · rfl
    · have hx : Text.isAsciiAlphanumeric x = false := by simpa using hlast (by simp)
      obtain ⟨hmem, hdot, -⟩ : '.' ∉ front ∧ '.' ≠ x ∧ '.' ∉ run := by simpa using hq
      simp [dropQualifier_restart hmem hdot.symm hx]
  rw [List.append_assoc, hfront, dropQualifier_alphanumeric hrun, List.append_nil]
  have hdot : Text.isAsciiAlphanumeric '.' = false := by decide
  cases run with
  | nil => simp [dropQualifier, hdot, dropQualifier_of_notMem hc]
  | cons x run => simp [dropQualifier, hdot]

lemma undropped_eq_nil_iff {q : List Char} (hne : q ≠ []) :
    undropped q = [] ↔ ∀ x ∈ q, Text.isAsciiAlphanumeric x = true := by
  rw [← List.rdropWhile_eq_nil_iff, undropped]
  split
  · next hrun =>
    have hcut : q.rdropWhile Text.isAsciiAlphanumeric ++ q.rtakeWhile Text.isAsciiAlphanumeric
        = q := List.rdropWhile_append_rtakeWhile
    rw [List.isEmpty_iff.mp hrun, List.append_nil] at hcut
    simp [hcut, hne]
  · rfl

/-- What stays of a qualifier does not end with a letter or digit. -/
lemma getLast?_undropped (q : List Char) :
    ∀ x ∈ (undropped q).getLast?, Text.isAsciiAlphanumeric x = false := by
  intro x hx
  rw [undropped] at hx
  split at hx
  · obtain rfl : x = '.' := by simpa [eq_comm] using hx
    decide
  · obtain ⟨hne, rfl⟩ := List.mem_getLast?_eq_getLast hx
    exact Bool.eq_false_iff.mpr (List.rdropWhile_last_not _ q hne)

/-! ### Joined words -/

/-- An underscore in front of a small letter is left out. -/
def Joins (c : Char) (cs : List Char) : Prop := c = '_' ∧ ∃ d ∈ cs.head?, 'a' ≤ d ∧ d ≤ 'z'

lemma joinHumps_cons {c : Char} {cs : List Char} (h : ¬ Joins c cs) :
    joinHumps (c :: cs) = c :: joinHumps cs := by
  cases cs with
  | nil => rfl
  | cons d cs =>
    rw [joinHumps, if_neg]
    simpa [Joins] using h

lemma joinHumps_joined {d : Char} (ha : 'a' ≤ d) (hz : d ≤ 'z') (cs : List Char) :
    joinHumps ('_' :: d :: cs) = d.toUpper :: joinHumps cs ∧
      joinHumps (d :: cs) = d :: joinHumps cs := by
  constructor
  · simp [joinHumps, ha, hz]
  · refine joinHumps_cons ?_
    rintro ⟨rfl, -⟩
    exact absurd ha (by decide)

lemma toNat_toUpper {d : Char} (ha : 'a' ≤ d) (hz : d ≤ 'z') : d.toUpper.toNat + 32 = d.toNat := by
  have hlow : 97 ≤ d.val.toNat := ha
  have hhigh : d.val.toNat ≤ 122 := hz
  have hshift : ('A'.val - 'a'.val).toNat = 4294967264 := by decide
  have hval : d.toUpper.val = d.val + ('A'.val - 'a'.val) := by
    unfold Char.toUpper
    rw [dif_pos ⟨ha, hz⟩]
  rw [Char.toNat, Char.toNat, hval, UInt32.toNat_add, hshift]
  omega

lemma length_joinHumps_le (c : Char) (cs : List Char) :
    (joinHumps cs).length ≤ (joinHumps (c :: cs)).length := by
  by_cases h : Joins c cs
  · obtain ⟨rfl, d, hd, ha, hz⟩ := h
    obtain ⟨cs, rfl⟩ := List.head?_eq_some_iff.mp hd
    rw [(joinHumps_joined ha hz cs).1, (joinHumps_joined ha hz cs).2]
    simp
  · simp [joinHumps_cons h]

/-- A text in front makes the joined text longer, except for an underscore that is left out. -/
lemma length_joinHumps_append {front : List Char} (hne : front ≠ [])
    (hlast : ∀ x ∈ front.getLast?, Text.isAsciiAlphanumeric x = false) (cs : List Char) :
    (joinHumps cs).length < (joinHumps (front ++ cs)).length ∨ front = ['_'] ∧ Joins '_' cs := by
  induction front with
  | nil => exact absurd rfl hne
  | cons x front ih =>
    cases front with
    | nil =>
      by_cases h : Joins x cs
      · obtain rfl : x = '_' := h.1
        exact .inr ⟨rfl, h⟩
      · exact .inl (by simp [joinHumps_cons h])
    | cons y front =>
      rcases ih (List.cons_ne_nil y front) (by simpa using hlast) with hlt | ⟨hfront, -⟩
      · exact .inl (hlt.trans_le (length_joinHumps_le x _))
      · obtain ⟨rfl, rfl⟩ := List.cons.inj hfront
        have hjoins : ¬ Joins x ('_' :: cs) := by
          rintro ⟨-, d, hd, ha, -⟩
          obtain rfl : '_' = d := by simpa using hd
          exact absurd ha (by decide)
        have hle := length_joinHumps_le '_' cs
        refine .inl ?_
        rw [List.cons_append, List.cons_append, List.nil_append, joinHumps_cons hjoins]
        exact Nat.lt_succ_of_le hle

lemma joinHumps_append_eq_iff {front : List Char}
    (hlast : ∀ x ∈ front.getLast?, Text.isAsciiAlphanumeric x = false) (cs : List Char) :
    joinHumps (front ++ cs) = joinHumps cs ↔ front = [] := by
  refine ⟨fun h => ?_, fun h => by rw [h, List.nil_append]⟩
  by_contra hne
  rcases length_joinHumps_append hne hlast cs with hlt | ⟨rfl, -, d, hd, ha, hz⟩
  · rw [h] at hlt
    exact lt_irrefl _ hlt
  · obtain ⟨cs, rfl⟩ := List.head?_eq_some_iff.mp hd
    rw [List.singleton_append, (joinHumps_joined ha hz cs).1, (joinHumps_joined ha hz cs).2] at h
    have hupper := toNat_toUpper ha hz
    rw [(List.cons.inj h).1] at hupper
    omega

/-! ### Plain names -/

lemma isBlank_of_isPlainChar {c : Char} (h : isPlainChar c = true) : Text.isBlank c = false := by
  have hrange : 36 ≤ c.toNat ∧ c.toNat ≤ 122 := by
    simp only [isPlainChar, Text.isAsciiAlphanumeric, Text.isAsciiLetter, Text.isAsciiDigit,
      Bool.or_eq_true, Bool.and_eq_true, beq_iff_eq, decide_eq_true_eq, Char.le_def,
      UInt32.le_iff_toNat_le] at h
    rcases h with (rfl | rfl) | ((h | h) | h)
    · decide
    · decide
    all_goals exact ⟨le_trans (by decide) h.1, le_trans h.2 (by decide)⟩
  simp only [Text.isBlank, Bool.or_eq_false_iff, Bool.and_eq_false_iff, decide_eq_false_iff_not,
    beq_eq_false_iff_ne]
  omega

lemma humpAlias_plain {c : List Char} (hc : isPlain c = true) : humpAlias c = joinHumps c := by
  rw [humpAlias, dropQualifier_of_notMem (notMem_of_isPlain hc (by decide))]
  rfl

lemma humpAlias_qualified {q c : List Char} (hq : isPlain q = true) (hc : isPlain c = true) :
    humpAlias (q ++ '.' :: c) = joinHumps (undropped q ++ c) := by
  rw [humpAlias, dropQualifier_qualified (notMem_of_isPlain hq (by decide))
    (notMem_of_isPlain hc (by decide))]

/-- The alias of a qualified column is that of the column exactly if the qualifier has letters and
digits only. -/
lemma humpAlias_qualified_iff {q c : List Char} (hq : isPlain q = true) (hc : isPlain c = true) :
    humpAlias (q ++ '.' :: c) = humpAlias c ↔ ∀ x ∈ q, x.isAlphanum = true := by
  have hne : q ≠ [] := by
    rintro rfl
    cases hq
  simp only [humpAlias_qualified hq hc, humpAlias_plain hc,
    joinHumps_append_eq_iff (getLast?_undropped q), undropped_eq_nil_iff hne,
    isAsciiAlphanumeric_eq]

/-! ### Lists of columns -/

/-- A column in a list of them, between blanks: its name, perhaps behind that of a table and a
dot. -/
structure ListedColumn where
  before : List Char
  table? : Option (List Char)
  column : List Char
  after : List Char
  blank_before : ∀ c ∈ before, Text.isBlank c = true
  plain_table : ∀ q ∈ table?, isPlain q = true
  plain_column : isPlain column = true
  blank_after : ∀ c ∈ after, Text.isBlank c = true

namespace ListedColumn

/-- The column without the blanks around it. -/
def reference (r : ListedColumn) : List Char :=
  match r.table? with
  | some q => q ++ '.' :: r.column
  | none => r.column

/-- The column as it stands in a list. -/
def source (r : ListedColumn) : List Char := r.before ++ r.reference ++ r.after

lemma mem_reference {r : ListedColumn} : ∀ c ∈ r.reference, isPlainChar c = true ∨ c = '.' := by
  have hcolumn := isPlainChar_of_isPlain r.plain_column
  intro c hc
  rw [reference] at hc
  split at hc
  · next q hq =>
    have htable := isPlainChar_of_isPlain (r.plain_table q hq)
    rcases List.mem_append.mp hc with hc | hc
    · exact .inl (htable c hc)
    · exact (List.mem_cons.mp hc).symm.imp_left (hcolumn c)
  · exact .inl (hcolumn c hc)

lemma isBlank_reference {r : ListedColumn} : ∀ c ∈ r.reference, Text.isBlank c = false := by
  intro c hc
  rcases mem_reference c hc with hc | rfl
  · exact isBlank_of_isPlainChar hc
  · decide

lemma reference_ne_nil (r : ListedColumn) : r.reference ≠ [] := by
  have hcolumn : r.column ≠ [] := by
    intro hnil
    have hplain := r.plain_column
    rw [hnil] at hplain
    cases hplain
  rw [reference]
  split
  · simp
  · exact hcolumn

lemma comma_notMem_reference (r : ListedColumn) : ',' ∉ r.reference := fun h =>
  (mem_reference _ h).elim (fun hplain => absurd hplain (by decide))
    (fun hdot => absurd hdot (by decide))

lemma comma_notMem_source (r : ListedColumn) : ',' ∉ r.source := by
  have hcomma : Text.isBlank ',' ≠ true := by decide
  simp only [source, List.mem_append, not_or]
  exact ⟨⟨fun h => hcomma (r.blank_before _ h), r.comma_notMem_reference⟩,
    fun h => hcomma (r.blank_after _ h)⟩

lemma trim_source (r : ListedColumn) : Text.trim r.source = r.reference := by
  rw [source, Text.trim_append_blank r.blank_after, Text.trim_blank_append r.blank_before,
    Text.trim_eq_self isBlank_reference]

/-- The column with its alias. -/
lemma humpItem_reference (r : ListedColumn) :
    humpItem r.reference = r.reference ++ ' ' :: humpAlias r.reference := by
  have hblank : r.reference.any Text.isBlank = false := by
    rw [List.any_eq_false]
    exact fun c hc => by simp [isBlank_reference c hc]
  simp [humpItem, reference_ne_nil, hblank]

lemma humpAlias_reference_iff (r : ListedColumn) :
    humpAlias r.reference = humpAlias r.column ↔ ∀ q ∈ r.table?, ∀ x ∈ q, x.isAlphanum = true := by
  rw [reference]
  split
  · next q hq =>
    rw [humpAlias_qualified_iff (r.plain_table q hq) r.plain_column]
    simp [hq]
  · next hnone => simp [hnone]

end ListedColumn

lemma hump_eq (columns : List ListedColumn) :
    hump ([','].intercalate (columns.map (·.source)))
      = ' ' :: ", ".toList.intercalate
          (columns.map fun r => r.reference ++ ' ' :: humpAlias r.reference) ++ [' '] := by
  have hitems : ((Text.trim ([','].intercalate (columns.map (·.source)))).splitOn ',').map
        (fun item => humpItem (Text.trim item))
      = (([','].intercalate (columns.map (·.source))).splitOn ',').map
        (fun item => humpItem (Text.trim item)) := by
    have htrim := Text.map_trim_splitOn_trim (by decide : Text.isBlank ',' = false)
      ([','].intercalate (columns.map (·.source)))
    simpa only [List.map_map, Function.comp_def] using congrArg (List.map humpItem) htrim
  cases columns with
  | nil => rfl
  | cons r columns =>
    have hsplit : ([','].intercalate ((r :: columns).map (·.source))).splitOn ','
        = (r :: columns).map (·.source) :=
      List.splitOn_intercalate ',' (by simp [ListedColumn.comma_notMem_source]) (by simp)
    simp only [hump, hitems, hsplit, List.map_map, Function.comp_def, ListedColumn.trim_source,
      ListedColumn.humpItem_reference]

/-! ### Items between commas -/

lemma mem_dropQualifier {run cs : List Char} {x : Char} (h : x ∈ dropQualifier run cs) :
    x ∈ run ∨ x ∈ cs := by
  fun_induction dropQualifier run cs with
  | case1 run => exact .inl (List.mem_reverse.mp h)
  | case2 run c cs _ ih =>
    rcases ih h with h | h
    · exact (List.mem_cons.mp h).elim (fun h => .inr (by simp [h])) .inl
    · exact .inr (List.mem_cons_of_mem c h)
  | case3 run c cs => exact .inr (List.mem_cons_of_mem c h)
  | case4 run c cs _ _ ih =>
    rcases List.mem_append.mp h with h | h
    · exact .inl (List.mem_reverse.mp h)
    · rcases List.mem_cons.mp h with rfl | h
      · exact .inr List.mem_cons_self
      · exact (ih h).imp (fun h => absurd h (List.not_mem_nil)) (List.mem_cons_of_mem c)

lemma comma_notMem_joinHumps {cs : List Char} (h : ',' ∉ cs) : ',' ∉ joinHumps cs := by
  fun_induction joinHumps cs with
  | case1 => exact h
  | case2 c => exact h
  | case3 c d cs hjoins ih =>
    obtain ⟨⟨-, ha⟩, hz⟩ : (c = '_' ∧ 'a' ≤ d) ∧ d ≤ 'z' := by simpa using hjoins
    have hupper := toNat_toUpper ha hz
    have hlow : 97 ≤ d.toNat := ha
    have hne : ',' ≠ d.toUpper := by
      intro hcomma
      rw [← hcomma] at hupper
      have hvalue : ','.toNat = 44 := rfl
      omega
    simp_all
  | case4 c d cs _ ih => simp_all

/-- The items of a list are the pieces between its commas, each but the first behind a blank. -/
lemma splitOn_intercalate_comma {x : List Char} {xs : List (List Char)}
    (h : ∀ y ∈ x :: xs, ',' ∉ y) :
    (", ".toList.intercalate (x :: xs)).splitOn ',' = x :: xs.map (' ' :: ·) := by
  have hwide := Sql.intercalate_cons_eq ", ".toList id x xs
  have hnarrow := Sql.intercalate_cons_eq [','] id x (xs.map (' ' :: ·))
  have hcomma : ", ".toList.intercalate (x :: xs) = [','].intercalate (x :: xs.map (' ' :: ·)) := by
    simpa [List.flatMap_map] using hwide.trans (by simpa [List.flatMap_map] using hnarrow.symm)
  rw [hcomma]
  refine List.splitOn_intercalate ',' ?_ (List.cons_ne_nil _ _)
  simpa using h

lemma intercalate_comma_inj {xs ys : List (List Char)} (hxs : ∀ x ∈ xs, ',' ∉ x)
    (hys : ∀ y ∈ ys, ',' ∉ y) (hlength : xs.length = ys.length)
    (h : ", ".toList.intercalate xs = ", ".toList.intercalate ys) : xs = ys := by
  cases xs with
  | nil => exact (List.eq_nil_of_length_eq_zero hlength.symm).symm
  | cons x xs =>
    cases ys with
    | nil => cases hlength
    | cons y ys =>
      have hsplit := congrArg (List.splitOn ',') h
      rw [splitOn_intercalate_comma hxs, splitOn_intercalate_comma hys] at hsplit
      obtain ⟨rfl, hrest⟩ := List.cons.inj hsplit
      rw [List.map_injective_iff.mpr (List.cons_injective) hrest]

lemma ListedColumn.comma_notMem_item (r : ListedColumn) {column : List Char} (h : ',' ∉ column) :
    ',' ∉ r.reference ++ ' ' :: humpAlias column := by
  have halias : ',' ∉ humpAlias column :=
    comma_notMem_joinHumps fun hmem => (mem_dropQualifier hmem).elim List.not_mem_nil h
  simp [r.comma_notMem_reference, halias]

/-- The alias of a qualified column is spelled from what stays of the qualifier and the name of the
column. It is the alias of the bare column exactly if the qualifier has ASCII letters and digits
only; and in a list every column gets the alias of its bare name exactly if all qualifiers are
such. -/
theorem hump_ignores_qualifiers_iff {q c : List Char} (hq : isPlain q = true)
    (hc : isPlain c = true) (columns : List ListedColumn) :
    (humpAlias (q ++ '.' :: c) = joinHumps (undropped q ++ c) ∧
      (humpAlias (q ++ '.' :: c) = humpAlias c ↔ ∀ x ∈ q, x.isAlphanum = true)) ∧
    hump ([','].intercalate (columns.map (·.source)))
      = ' ' :: ", ".toList.intercalate
          (columns.map fun r => r.reference ++ ' ' :: humpAlias r.reference) ++ [' '] ∧
    (hump ([','].intercalate (columns.map (·.source)))
        = ' ' :: ", ".toList.intercalate
            (columns.map fun r => r.reference ++ ' ' :: humpAlias r.column) ++ [' '] ↔
      ∀ r ∈ columns, ∀ q ∈ r.table?, ∀ x ∈ q, x.isAlphanum = true) := by
  refine ⟨⟨humpAlias_qualified hq hc, humpAlias_qualified_iff hq hc⟩, hump_eq columns, ?_⟩
  have hsame : (∀ r ∈ columns, ∀ q ∈ r.table?, ∀ x ∈ q, x.isAlphanum = true) ↔
      (columns.map fun r => r.reference ++ ' ' :: humpAlias r.reference)
        = columns.map fun r => r.reference ++ ' ' :: humpAlias r.column := by
    simp [List.map_inj_left, ListedColumn.humpAlias_reference_iff]
  rw [hump_eq, hsame]
  refine ⟨fun h => ?_, fun h => by rw [h]⟩
  have hitems (column : ListedColumn → List Char) (hcomma : ∀ r, ',' ∉ column r) :
      ∀ item ∈ columns.map fun r => r.reference ++ ' ' :: humpAlias (column r), ',' ∉ item := by
    intro item hitem
    obtain ⟨r, -, rfl⟩ := List.mem_map.mp hitem
    exact r.comma_notMem_item (hcomma r)
  exact intercalate_comma_inj (hitems _ (·.comma_notMem_reference))
    (hitems _ fun r => notMem_of_isPlain r.plain_column (by decide)) (by simp) (by simpa using h)

/-- A column behind an alias of letters and digits. -/
def aliasedColumn : ListedColumn where
  before := []
  table? := some "t1".toList
  column := "user_id".toList
  after := []
  blank_before := by simp
  plain_table := by
    rintro q ⟨⟩
    decide
  plain_column := by decide
  blank_after := by simp

/-- A column behind the name of a table that has an underscore. -/
def tableColumn : ListedColumn where
  before := " ".toList
  table? := some "user_info".toList
  column := "name".toList
  after := []
  blank_before := List.all_eq_true.mp (by decide)
  plain_table := by
    rintro q ⟨⟩
    decide
  plain_column := by decide
  blank_after := by simp

/-- An alias of a table leaves that of the column alone, and a name with an underscore does not. -/
theorem hump_ignores_qualifiers_short :
    isPlain "t1".toList = true ∧ isPlain "user_id".toList = true ∧
      humpAlias "t1.user_id".toList = humpAlias "user_id".toList ∧
      hump "t1.user_id, user_info.name".toList
        = " t1.user_id userId, user_info.name userName ".toList := by
  have hplain : isPlain "t1".toList = true ∧ isPlain "user_id".toList = true := by decide
  obtain ⟨hone, hlist, -⟩ :=
    hump_ignores_qualifiers_iff hplain.1 hplain.2 [aliasedColumn, tableColumn]
  refine ⟨hplain.1, hplain.2, ?_, hlist.trans (by decide)⟩
  exact hone.2.mpr (List.all_eq_true.mp (by decide))

/-- Of a qualifier with an underscore a part is taken for the column. -/
theorem humpAlias_keeps_qualifier :
    isPlain "user_info".toList = true ∧ isPlain "name".toList = true ∧
      humpAlias "user_info.name".toList = "userName".toList ∧
      humpAlias "name".toList = "name".toList := by
  decide

end QueryLoom.Clause

import QueryLoom.Proofs.OwnFragments
import QueryLoom.Registry.Markdown

/-!
# Query documents and the queries they hold

A document is written from its queries: a header, and then for each query its heading, the
underline, what may stand between them and the text, the text itself, and what may follow it.
Reading gives back the queries, whatever was put around them. For any text at all, reading by the
positions of its lines never looks behind the last line and finds the same queries.
-/

namespace QueryLoom

namespace Registry

/-! ### Lines that are read -/

/-- A line as it is read: carriage returns do not count. -/
def withoutReturns (line : Line) : Line :=
  line.filter (· != '\r')

/-- The lines that are read from a text. -/
def readLines (cs : List Char) : List Line :=
  (withoutReturns cs).splitOn '\n'

lemma withoutReturns_eq_self {line : Line} (h : '\r' ∉ line) : withoutReturns line = line := by
  refine List.filter_eq_self.mpr fun c hc => ?_
  simpa using fun hr : c = '\r' => h (hr ▸ hc)

lemma mem_of_mem_withoutReturns {line : Line} {c : Char} (h : c ∈ withoutReturns line) :
    c ∈ line :=
  List.mem_of_mem_filter h

lemma readLines_append (xs ys : List Char) :
    readLines (xs ++ '\n' :: ys) = readLines xs ++ readLines ys := by
  have hreturns : withoutReturns (xs ++ '\n' :: ys)
      = withoutReturns xs ++ '\n' :: withoutReturns ys := by
    simp [withoutReturns]
  rw [readLines, hreturns]
  exact List.splitOnP_append_cons (withoutReturns xs) (withoutReturns ys) rfl

lemma readLines_of_notMem {line : Line} (h : '\n' ∉ line) :
    readLines line = [withoutReturns line] := by
  refine List.splitOnP_eq_singleton fun c hc => ?_
  simpa using fun hn : c = '\n' => h (hn ▸ mem_of_mem_withoutReturns hc)

lemma readLines_intercalate {chunks : List (List Char)} (hne : chunks ≠ []) :
    readLines (['\n'].intercalate chunks) = chunks.flatMap readLines := by
  induction chunks with
  | nil => exact absurd rfl hne
  | cons chunk chunks ih =>
    cases chunks with
    | nil => simp
    | cons next chunks =>
      rw [List.intercalate_cons_cons, List.append_assoc, List.singleton_append, readLines_append,
        ih (List.cons_ne_nil next chunks), List.flatMap_cons (x := chunk)]

lemma flatMap_readLines {lines : List Line} (h : ∀ line ∈ lines, '\n' ∉ line) :
    lines.flatMap readLines = lines.map withoutReturns := by
  rw [List.map_eq_flatMap]
  exact List.flatMap_congr fun line hline => readLines_of_notMem (h line hline)

/-! ### Lines in front of a query -/

lemma isUnderline_iff {line : Line} :
    isUnderline line = true ↔ ∃ more, line = '=' :: '=' :: '=' :: more := by
  rw [isUnderline, List.isPrefixOf_iff_prefix]
  exact ⟨fun ⟨more, h⟩ => ⟨more, h.symm⟩, fun ⟨more, h⟩ => ⟨more, h.symm⟩⟩

lemma isUnderline_withoutReturns {line : Line} (h : isUnderline line = true) :
    isUnderline (withoutReturns line) = true := by
  rw [isUnderline_iff] at h ⊢
  obtain ⟨more, rfl⟩ := h
  exact ⟨withoutReturns more, rfl⟩

/-- What a line between a heading and its query begins with if it is not blank. -/
def fillerMarks : List Line :=
  [['*'], ['\x60', '\x60', '\x60'], ['~', '~', '~']]

lemma isFence_iff {line : Line} :
    isFence line = true ↔ ∃ mark ∈ fillerMarks.tail, mark <+: Text.trim line := by
  simp [isFence, fillerMarks]

lemma isFiller_iff {line : Line} : isFiller line = true ↔
    (∀ c ∈ line, Text.isBlank c = true) ∨ ∃ mark ∈ fillerMarks, mark <+: Text.trim line := by
  have hstar : (Text.trim line).head? = some '*' ↔ ['*'] <+: Text.trim line := by
    cases Text.trim line <;> simp [eq_comm]
  simp only [isFiller, Bool.or_eq_true, List.isEmpty_iff, Text.trim_eq_nil_iff, beq_iff_eq, hstar,
    isFence_iff, or_assoc]
  simp [fillerMarks]

lemma isBlank_of_mem_fillerMarks {mark : Line} (h : mark ∈ fillerMarks) :
    mark ≠ [] ∧ ∀ c ∈ mark, Text.isBlank c = false ∧ c ≠ '\r' ∧ c ≠ '=' := by
  have hchar : ∀ c ∈ ['*', '\x60', '~'], Text.isBlank c = false ∧ c ≠ '\r' ∧ c ≠ '=' := by
    simp [Text.isBlank]
  simp only [fillerMarks, List.mem_cons, List.not_mem_nil, or_false] at h
  obtain rfl | rfl | rfl := h <;>
    exact ⟨List.cons_ne_nil _ _, fun c hc => hchar c (by simp at hc; simp [hc])⟩

lemma mark_prefix_trim_iff {mark line : Line} (h : mark ∈ fillerMarks) :
    mark <+: Text.trim line ↔
      ∃ front rest, (∀ c ∈ front, Text.isBlank c = true) ∧ line = front ++ (mark ++ rest) :=
  Text.prefix_trim_iff (isBlank_of_mem_fillerMarks h).1
    fun c hc => ((isBlank_of_mem_fillerMarks h).2 c hc).1

lemma mark_prefix_withoutReturns {mark line : Line} (h : mark ∈ fillerMarks)
    (hline : mark <+: Text.trim line) : mark <+: Text.trim (withoutReturns line) := by
  obtain ⟨front, rest, hfront, rfl⟩ := (mark_prefix_trim_iff h).mp hline
  have hself : withoutReturns mark = mark := withoutReturns_eq_self fun hr =>
    ((isBlank_of_mem_fillerMarks h).2 '\r' hr).2.1 rfl
  refine (mark_prefix_trim_iff h).mpr ⟨withoutReturns front, withoutReturns rest,
    fun c hc => hfront c (mem_of_mem_withoutReturns hc), ?_⟩
  conv_rhs => rw [← hself]
  simp [withoutReturns]

lemma isFiller_of_blank {line : Line} (h : ∀ c ∈ line, Text.isBlank c = true) :
    isFiller line = true :=
  isFiller_iff.mpr (.inl h)

lemma isFiller_of_star {line : Line} (h : (Text.trimStart line).head? = some '*') :
    isFiller line = true := by
  obtain ⟨rest, hrest⟩ := List.head?_eq_some_iff.mp h
  refine isFiller_iff.mpr (.inr ⟨['*'], by simp [fillerMarks], ?_⟩)
  refine (mark_prefix_trim_iff (by simp [fillerMarks])).mpr
    ⟨line.takeWhile Text.isBlank, rest, fun _ => List.mem_takeWhile_imp, ?_⟩
  rw [List.singleton_append, ← hrest]
  exact List.takeWhile_append_dropWhile.symm

lemma isFiller_of_isFence {line : Line} (h : isFence line = true) : isFiller line = true := by
  simp [isFiller, h]

lemma isFence_withoutReturns {line : Line} (h : isFence line = true) :
    isFence (withoutReturns line) = true := by
  obtain ⟨mark, hmark, hline⟩ := isFence_iff.mp h
  exact isFence_iff.mpr ⟨mark, hmark, mark_prefix_withoutReturns (List.mem_of_mem_tail hmark) hline⟩

lemma isFiller_withoutReturns {line : Line} (h : isFiller line = true) :
    isFiller (withoutReturns line) = true := by
  obtain hblank | ⟨mark, hmark, hline⟩ := isFiller_iff.mp h
  · exact isFiller_of_blank fun c hc => hblank c (mem_of_mem_withoutReturns hc)
  · exact isFiller_iff.mpr (.inr ⟨mark, hmark, mark_prefix_withoutReturns hmark hline⟩)

lemma isUnderline_of_isFiller {line : Line} (h : isFiller line = true) :
    isUnderline line = false := by
  rw [Bool.eq_false_iff, Ne, isUnderline_iff]
  rintro ⟨more, rfl⟩
  obtain hblank | ⟨mark, hmark, hline⟩ := isFiller_iff.mp h
  · exact absurd (hblank '=' (by simp)) (by decide)
  · obtain ⟨front, rest, hfront, hcut⟩ := (mark_prefix_trim_iff hmark).mp hline
    cases front with
    | nil =>
      obtain ⟨c, mark, rfl⟩ := List.exists_cons_of_ne_nil (isBlank_of_mem_fillerMarks hmark).1
      obtain ⟨rfl, -⟩ := List.cons.inj hcut
      exact ((isBlank_of_mem_fillerMarks hmark).2 '=' (by simp)).2.2 rfl
    | cons c front =>
      obtain ⟨rfl, -⟩ := List.cons.inj hcut
      exact absurd (hfront '=' (by simp)) (by decide)

/-! ### The text of a query -/

lemma isBlank_intercalate {blanks : List Line}
    (h : ∀ line ∈ blanks, ∀ c ∈ line, Text.isBlank c = true) :
    ∀ c ∈ ['\n'].intercalate blanks, Text.isBlank c = true := by
  induction blanks with
  | nil => simp
  | cons blank blanks ih =>
    cases blanks with
    | nil => simpa using h
    | cons next blanks =>
      obtain ⟨hblank, hblanks⟩ := List.forall_mem_cons.mp h
      have hbreak : Text.isBlank '\n' = true := by decide
      rw [List.intercalate_cons_cons]
      simpa [or_imp, forall_and, hbreak] using ⟨hblank, ih hblanks⟩

/-- Blank lines behind a text add blanks to it. -/
lemma intercalate_append_blank {lines blanks : List Line} (hlines : lines ≠ [])
    (hblanks : ∀ line ∈ blanks, ∀ c ∈ line, Text.isBlank c = true) :
    ∃ tail, (∀ c ∈ tail, Text.isBlank c = true) ∧
      ['\n'].intercalate (lines ++ blanks) = ['\n'].intercalate lines ++ tail := by
  induction lines with
  | nil => exact absurd rfl hlines
  | cons line lines ih =>
    cases lines with
    | nil =>
      cases blanks with
      | nil => exact ⟨[], by simp⟩
      | cons blank blanks =>
        refine ⟨'\n' :: ['\n'].intercalate (blank :: blanks), ?_, ?_⟩
        · simpa using ⟨by decide, isBlank_intercalate hblanks⟩
        · simp [List.intercalate_cons_cons]
    | cons next lines =>
      obtain ⟨tail, htail, hjoin⟩ := ih (List.cons_ne_nil next lines)
      refine ⟨tail, htail, ?_⟩
      simp only [List.cons_append, List.intercalate_cons_cons] at hjoin ⊢
      simp [hjoin]

/-- The text of a query does not depend on the fences and the blank lines behind it. -/
lemma queryText_append {sql : String} {after : List Line}
    (hsql : Text.trimEnd sql.toList = sql.toList)
    (hfence : ∀ line ∈ sql.toList.splitOn '\n', isFence line = false)
    (hafter : ∀ line ∈ after, isFence line = true ∨ ∀ c ∈ line, Text.isBlank c = true) :
    queryText (sql.toList.splitOn '\n' ++ after) = sql := by
  have hself : (sql.toList.splitOn '\n').filter (!isFence ·) = sql.toList.splitOn '\n' :=
    List.filter_eq_self.mpr fun line hline => by simp [hfence line hline]
  have hblanks : ∀ line ∈ after.filter (!isFence ·), ∀ c ∈ line, Text.isBlank c = true := by
    intro line hline
    obtain ⟨hmem, hno⟩ := List.mem_filter.mp hline
    exact (hafter line hmem).resolve_left (by simpa using hno)
  obtain ⟨tail, htail, hjoin⟩ :=
    intercalate_append_blank (List.splitOnP_ne_nil (· == '\n') sql.toList) hblanks
  change ['\n'].intercalate (sql.toList.splitOn '\n' ++ _)
    = ['\n'].intercalate (sql.toList.splitOn '\n') ++ tail at hjoin
  rw [queryText, List.filter_append, hself, hjoin, List.intercalate_splitOn,
    Text.trimEnd_append_blank htail, hsql, String.ofList_toList]

/-! ### From one underline to the next -/

/-- What can stand under an underline: nothing but fillers, the last query, or a query and the next
underline. -/
inductive Under : List Line → Prop where
  | fillers {fillers : List Line} (hfillers : ∀ line ∈ fillers, isFiller line = true) :
      Under fillers
  | last {fillers content : List Line} {first : Line}
      (hfillers : ∀ line ∈ fillers, isFiller line = true) (hfirst : isFiller first = false)
      (hcontent : ∀ line ∈ first :: content, isUnderline line = false) :
      Under (fillers ++ first :: content)
  | next {fillers content rest : List Line} {next : Line}
      (hfillers : ∀ line ∈ fillers, isFiller line = true)
      (hfirst : ∀ line ∈ content.head?, isFiller line = false)
      (hcontent : ∀ line ∈ content, isUnderline line = false) (hnext : isUnderline next = true) :
      Under (fillers ++ (content ++ next :: rest))

/-- Under every underline stands one of the three. -/
lemma under (lines : List Line) : Under lines := by
  have hfillers : ∀ line ∈ lines.takeWhile isFiller, isFiller line = true :=
    fun _ => List.mem_takeWhile_imp
  have hlines : lines.takeWhile isFiller ++ lines.dropWhile isFiller = lines :=
    List.takeWhile_append_dropWhile
  cases hbody : lines.dropWhile isFiller with
  | nil =>
    rw [hbody, List.append_nil] at hlines
    exact hlines ▸ .fillers hfillers
  | cons first body =>
    have hfirst : isFiller first = false := by
      simpa [hbody] using List.head?_dropWhile_not isFiller lines
    let content := (first :: body).takeWhile (!isUnderline ·)
    have hcontent : ∀ line ∈ content, isUnderline line = false := fun line hline => by
      simpa using List.mem_takeWhile_imp hline
    have hcut : content ++ (first :: body).dropWhile (!isUnderline ·) = first :: body :=
      List.takeWhile_append_dropWhile
    rw [← hlines, hbody]
    cases hrest : (first :: body).dropWhile (!isUnderline ·) with
    | nil =>
      rw [hrest, List.append_nil] at hcut
      exact .last hfillers hfirst (hcut ▸ hcontent)
    | cons next rest =>
      have hnext : isUnderline next = true := by
        simpa [hrest] using List.head?_dropWhile_not (!isUnderline ·) (first :: body)
      rw [hrest] at hcut
      rw [← hcut]
      refine .next hfillers (fun line hline => ?_) hcontent hnext
      have hhead := congrArg List.head? hcut
      rw [List.head?_append, Option.mem_def.mp hline] at hhead
      obtain rfl : line = first := by simpa using hhead
      exact hfirst

section

variable {heading underline : Line} {fillers content : List Line}

lemma queriesFrom_fillers (hfillers : ∀ line ∈ fillers, isFiller line = true) :
    queriesFrom heading underline fillers = [] := by
  rw [queriesFrom]
  exact if_pos (by simp [List.dropWhile_eq_nil_iff.mpr hfillers])

/-- What is read under the last underline. -/
lemma queriesFrom_last {first : Line} (hfillers : ∀ line ∈ fillers, isFiller line = true)
    (hfirst : isFiller first = false)
    (hcontent : ∀ line ∈ first :: content, isUnderline line = false) :
    queriesFrom heading underline (fillers ++ first :: content)
      = query heading (first :: content) := by
  have hbody : (fillers ++ first :: content).dropWhile isFiller = first :: content := by
    rw [List.dropWhile_append_of_pos hfillers, List.dropWhile_cons_of_neg (by simp [hfirst])]
  have hnot : ∀ line ∈ first :: content, (!isUnderline line) = true := fun line hline => by
    simp [hcontent line hline]
  have hrest := List.dropWhile_eq_nil_iff.mpr hnot
  rw [queriesFrom]
  split
  · next hempty => simp [hbody] at hempty
  · split
    · rw [hbody, List.takeWhile_eq_self_iff.mpr hnot]
    · next h => rw [hbody, hrest] at h; cases h

/-- What follows the fillers does not begin with one. -/
lemma exists_first_of_next {next : Line}
    (hbegins : ∀ line ∈ content.head?, isFiller line = false) (hnext : isUnderline next = true)
    (rest : List Line) :
    ∃ first body, content ++ next :: rest = first :: body ∧ isFiller first = false := by
  cases content with
  | cons first content => exact ⟨first, content ++ next :: rest, rfl, hbegins first rfl⟩
  | nil =>
    refine ⟨next, rest, rfl, Bool.eq_false_iff.mpr fun h => ?_⟩
    rw [isUnderline_of_isFiller h] at hnext
    cases hnext

/-- What is read under an underline with another one behind it. -/
lemma queriesFrom_next {next : Line} {rest : List Line}
    (hfillers : ∀ line ∈ fillers, isFiller line = true)
    (hbegins : ∀ line ∈ content.head?, isFiller line = false)
    (hcontent : ∀ line ∈ content, isUnderline line = false) (hnext : isUnderline next = true) :
    queriesFrom heading underline (fillers ++ (content ++ next :: rest))
      = query heading content.dropLast
        ++ queriesFrom ((underline :: fillers ++ content).getLast?.getD []) next rest := by
  have hnot : ∀ line ∈ content, (!isUnderline line) = true := fun line hline => by
    simp [hcontent line hline]
  obtain ⟨first, body, hbody, hfirst⟩ := exists_first_of_next hbegins hnext rest
  have hdrop : (fillers ++ (content ++ next :: rest)).dropWhile isFiller
      = content ++ next :: rest := by
    rw [List.dropWhile_append_of_pos hfillers, hbody]
    exact List.dropWhile_cons_of_neg (by simp [hfirst])
  have htake : (fillers ++ (content ++ next :: rest)).takeWhile isFiller = fillers := by
    rw [List.takeWhile_append_of_pos hfillers, hbody, List.takeWhile_cons_of_neg (by simp [hfirst]),
      List.append_nil]
  have hrest : (content ++ next :: rest).dropWhile (!isUnderline ·) = next :: rest := by
    rw [List.dropWhile_append_of_pos hnot, List.dropWhile_cons_of_neg (by simp [hnext])]
  have hhead : (content ++ next :: rest).takeWhile (!isUnderline ·) = content := by
    rw [List.takeWhile_append_of_pos hnot, List.takeWhile_cons_of_neg (by simp [hnext]),
      List.append_nil]
  rw [queriesFrom]
  split
  · next hempty => simp [hdrop] at hempty
  · split
    · next h => rw [hdrop, hrest] at h; cases h
    · next h =>
      rw [hdrop, hrest] at h
      obtain ⟨rfl, rfl⟩ := List.cons.inj h
      simp only [hdrop, htake, hhead]

end

/-! ### Writing a document -/

/-- A query as it stands in a document. A text that ends with a line break has a blank line at its
end, which belongs to its last query. -/
structure Entry where
  id : String
  sql : String
  underline : Line
  fillers : List Line
  closing : Option Line
  blanks : List Line
  id_ne_empty : id ≠ ""
  id_trimmed : Text.trimmed id = id
  id_unbroken : '\n' ∉ id.toList ∧ '\r' ∉ id.toList
  id_not_underline : isUnderline id.toList = false
  sql_no_return : '\r' ∉ sql.toList
  sql_lines : ∀ line ∈ sql.toList.splitOn '\n', isUnderline line = false ∧ isFence line = false
  sql_first : ∀ line ∈ (sql.toList.splitOn '\n').head?,
    Text.trim line ≠ [] ∧ (Text.trim line).head? ≠ some '*'
  sql_trimmed : Text.trimEnd sql.toList = sql.toList
  underline_ok : '\n' ∉ underline ∧ isUnderline underline = true
  fillers_ok : ∀ line ∈ fillers, '\n' ∉ line ∧
    ((∀ c ∈ line, Text.isBlank c = true) ∨ (Text.trimStart line).head? = some '*' ∨
      isFence line = true)
  closing_ok : ∀ line ∈ closing, '\n' ∉ line ∧ isFence line = true
  blanks_ok : ∀ line ∈ blanks, '\n' ∉ line ∧ ∀ c ∈ line, Text.isBlank c = true

/-- What is written for a query: pieces of text, each behind a line break. -/
def Entry.pieces (e : Entry) : List (List Char) :=
  e.id.toList :: e.underline :: (e.fillers ++ e.sql.toList :: (e.closing.toList ++ e.blanks))

/-- A header and queries. -/
structure Document where
  header : List Line
  entries : List Entry
  header_ok : ∀ line ∈ header, '\n' ∉ line ∧ '\r' ∉ line ∧ isUnderline line = false

/-- The text of a document. -/
def Document.text (doc : Document) : String :=
  String.ofList (['\n'].intercalate (doc.header ++ doc.entries.flatMap Entry.pieces))

/-- The queries of a document, with their ids. -/
def Document.queries (doc : Document) : List (String × String) :=
  doc.entries.map fun e => (e.id, e.sql)

/-! ### Reading what was written -/

namespace Entry

/-- The lines of a query behind its fillers, as they are read. -/
def content (e : Entry) : List Line :=
  e.sql.toList.splitOn '\n' ++ (e.closing.toList ++ e.blanks).map withoutReturns

/-- The lines of a query under its underline, as they are read. -/
def body (e : Entry) : List Line :=
  e.fillers.map withoutReturns ++ e.content

lemma readLines_pieces (e : Entry) : e.pieces.flatMap readLines
    = e.id.toList :: withoutReturns e.underline :: e.body := by
  have hid : readLines e.id.toList = [e.id.toList] := by
    rw [readLines_of_notMem e.id_unbroken.1, withoutReturns_eq_self e.id_unbroken.2]
  have hsql : readLines e.sql.toList = e.sql.toList.splitOn '\n' := by
    rw [readLines, withoutReturns_eq_self e.sql_no_return]
  have hafter : ∀ line ∈ e.closing.toList ++ e.blanks, '\n' ∉ line := by
    intro line hline
    obtain hclosing | hblanks := List.mem_append.mp hline
    · exact (e.closing_ok line (Option.mem_toList.mp hclosing)).1
    · exact (e.blanks_ok line hblanks).1
  simp only [pieces, body, content, List.flatMap_cons, List.flatMap_append, hid, hsql,
    readLines_of_notMem e.underline_ok.1,
    flatMap_readLines fun line hline => (e.fillers_ok line hline).1]
  rw [← List.flatMap_append, flatMap_readLines hafter]
  rfl

lemma isFiller_of_mem_fillers (e : Entry) :
    ∀ line ∈ e.fillers.map withoutReturns, isFiller line = true := by
  intro line hline
  obtain ⟨filler, hfiller, rfl⟩ := List.mem_map.mp hline
  apply isFiller_withoutReturns
  obtain ⟨-, hblank | hstar | hfence⟩ := e.fillers_ok filler hfiller
  · exact isFiller_of_blank hblank
  · exact isFiller_of_star hstar
  · exact isFiller_of_isFence hfence

/-- A query begins with a line that is no filler. -/
lemma exists_content_eq_cons (e : Entry) :
    ∃ first more, e.content = first :: more ∧ isFiller first = false := by
  obtain ⟨first, more, hlines⟩ :=
    List.exists_cons_of_ne_nil (List.splitOnP_ne_nil (· == '\n') e.sql.toList)
  change e.sql.toList.splitOn '\n' = first :: more at hlines
  refine ⟨first, more ++ (e.closing.toList ++ e.blanks).map withoutReturns, ?_, ?_⟩
  · rw [content, hlines, List.cons_append]
  · have hfirst := e.sql_first first (by simp [hlines])
    have hfence := (e.sql_lines first (by simp [hlines])).2
    simp [isFiller, hfirst, hfence]

lemma after_ok (e : Entry) : ∀ line ∈ (e.closing.toList ++ e.blanks).map withoutReturns,
    isFence line = true ∨ ∀ c ∈ line, Text.isBlank c = true := by
  intro line hline
  obtain ⟨raw, hraw, rfl⟩ := List.mem_map.mp hline
  obtain hclosing | hblanks := List.mem_append.mp hraw
  · exact .inl (isFence_withoutReturns (e.closing_ok raw (Option.mem_toList.mp hclosing)).2)
  · exact .inr fun c hc => (e.blanks_ok raw hblanks).2 c (mem_of_mem_withoutReturns hc)

lemma isUnderline_of_mem_content (e : Entry) : ∀ line ∈ e.content, isUnderline line = false := by
  intro line hline
  obtain hsql | hafter := List.mem_append.mp hline
  · exact (e.sql_lines line hsql).1
  · obtain hfence | hblank := e.after_ok line hafter
    · exact isUnderline_of_isFiller (isFiller_of_isFence hfence)
    · exact isUnderline_of_isFiller (isFiller_of_blank hblank)

lemma query_content (e : Entry) : query e.id.toList e.content = [(e.id, e.sql)] := by
  have hid : Text.trim e.id.toList = e.id.toList := by
    simpa [Text.trimmed] using congrArg String.toList e.id_trimmed
  have hne : e.id.toList.isEmpty = false := by simpa using e.id_ne_empty
  have htext : queryText e.content = e.sql :=
    queryText_append e.sql_trimmed (fun line hline => (e.sql_lines line hline).2) e.after_ok
  rw [query, hid, htext]
  simp [hne]

end Entry

/-- What is read from the first of some queries on. -/
lemma queriesFrom_entries (e : Entry) (es : List Entry) :
    queriesFrom e.id.toList (withoutReturns e.underline)
        (e.body ++ (es.flatMap Entry.pieces).flatMap readLines)
      = (e :: es).map fun e => (e.id, e.sql) := by
  obtain ⟨first, more, hcontent, hfirst⟩ := e.exists_content_eq_cons
  induction es generalizing e first more with
  | nil =>
    have hnot := e.isUnderline_of_mem_content
    rw [hcontent] at hnot
    rw [List.flatMap_nil, List.flatMap_nil, List.append_nil, Entry.body, hcontent,
      queriesFrom_last e.isFiller_of_mem_fillers hfirst hnot, ← hcontent, e.query_content]
    rfl
  | cons next es ih =>
    obtain ⟨first', more', hcontent', hfirst'⟩ := next.exists_content_eq_cons
    have hbegins : ∀ line ∈ (e.content ++ [next.id.toList]).head?, isFiller line = false := by
      simp [hcontent, hfirst]
    have hnot : ∀ line ∈ e.content ++ [next.id.toList], isUnderline line = false := by
      simpa [or_imp, forall_and, next.id_not_underline] using e.isUnderline_of_mem_content
    have hlines : e.body ++ ((next :: es).flatMap Entry.pieces).flatMap readLines
        = e.fillers.map withoutReturns ++ ((e.content ++ [next.id.toList]) ++
          withoutReturns next.underline ::
            (next.body ++ (es.flatMap Entry.pieces).flatMap readLines)) := by
      rw [List.flatMap_cons, List.flatMap_append, next.readLines_pieces, Entry.body]
      simp
    rw [hlines, queriesFrom_next e.isFiller_of_mem_fillers hbegins hnot
      (isUnderline_withoutReturns next.underline_ok.2), List.dropLast_concat, e.query_content,
      ← List.append_assoc, List.getLast?_concat, Option.getD_some,
      ih next first' more' hcontent' hfirst']
    rfl

lemma linesOf_text (doc : Document) (hne : doc.header ++ doc.entries.flatMap Entry.pieces ≠ []) :
    linesOf doc.text = doc.header ++ (doc.entries.flatMap Entry.pieces).flatMap readLines := by
  have hheader : doc.header.flatMap readLines = doc.header := by
    rw [flatMap_readLines fun line hline => (doc.header_ok line hline).1]
    exact (List.map_congr_left fun line hline =>
      withoutReturns_eq_self (doc.header_ok line hline).2.1).trans (List.map_id doc.header)
  change readLines doc.text.toList = _
  rw [Document.text, String.toList_ofList, readLines_intercalate hne, List.flatMap_append, hheader]

/-- Reading gives back the queries a document was written from. -/
lemma queriesOf_text (doc : Document) : queriesOf doc.text = doc.queries := by
  have hheader : ∀ line ∈ doc.header, (!isUnderline line) = true := fun line hline => by
    simp [(doc.header_ok line hline).2.2]
  cases hentries : doc.entries with
  | nil =>
    have hlines : ∀ line ∈ linesOf doc.text, (!isUnderline line) = true := by
      by_cases hempty : doc.header = []
      · have htext : doc.text = "" := by rw [Document.text, hempty, hentries]; rfl
        rw [htext]
        exact fun line hline => by simp [linesOf] at hline; subst hline; rfl
      · rw [linesOf_text doc (by simp [hempty])]
        simpa [hentries] using hheader
    rw [queriesOf, List.dropWhile_eq_nil_iff.mpr hlines, Document.queries, hentries]
    rfl
  | cons e es =>
    have hlines := linesOf_text doc (by simp [hentries, Entry.pieces])
    have hbefore : ∀ line ∈ doc.header ++ [e.id.toList], (!isUnderline line) = true := by
      simpa [or_imp, forall_and, e.id_not_underline] using hheader
    have hunderline : isUnderline (withoutReturns e.underline) = true :=
      isUnderline_withoutReturns e.underline_ok.2
    rw [hentries, List.flatMap_cons, List.flatMap_append, e.readLines_pieces, List.cons_append,
      List.append_cons, List.cons_append] at hlines
    rw [queriesOf, hlines, List.dropWhile_append_of_pos hbefore,
      List.takeWhile_append_of_pos hbefore, List.dropWhile_cons_of_neg (by simp [hunderline]),
      List.takeWhile_cons_of_neg (by simp [hunderline]), List.append_nil, List.getLast?_concat,
      Document.queries, hentries]
    exact queriesFrom_entries e es

/-! ### Reading by position -/

/-- The position of the first line from `start` on that satisfies `p`. -/
def findFrom (p : Line → Bool) (lines : List Line) (start : Nat) : Option Nat :=
  ((lines.drop start).findIdx? p).map (· + start)

/-- The lines from `start` to `stop`, if these are positions in their order. -/
def slice? (lines : List Line) (start stop : Nat) : Option (List Line) :=
  if start ≤ stop ∧ stop ≤ lines.length then some ((lines.drop start).take (stop - start)) else none

lemma le_of_findFrom {p : Line → Bool} {lines : List Line} {start i : Nat}
    (h : findFrom p lines start = some i) : start ≤ i ∧ i < lines.length := by
  obtain ⟨j, hj, rfl⟩ := Option.map_eq_some_iff.mp h
  obtain ⟨hlt, -⟩ := List.findIdx?_eq_some_iff_getElem.mp hj
  rw [List.length_drop] at hlt
  omega

/-- The line above a position; the first line has a blank one above it. -/
def heading? (lines : List Line) (underline : Nat) : Option Line :=
  if underline = 0 then some [] else lines[underline - 1]?

/-- The queries from the underline at a position on; nothing where a position is out of range. -/
def scanFrom? (lines : List Line) (underline : Nat) : Option (List (String × String)) := do
  let heading ← heading? lines underline
  match _hstart : findFrom (!isFiller ·) lines (underline + 1) with
  | none => some []
  | some start =>
    match _hnext : findFrom isUnderline lines start with
    | none => do
      let content ← slice? lines start lines.length
      some (query heading content)
    | some next => do
      let content ← slice? lines start (max (next - 1) start)
      let more ← scanFrom? lines next
      some (query heading content ++ more)
termination_by lines.length - underline
decreasing_by
  have hle := le_of_findFrom _hstart
  have hlt := le_of_findFrom _hnext
  omega

/-- The queries of some lines, found by position. -/
def scan? (lines : List Line) : Option (List (String × String)) :=
  match findFrom isUnderline lines 0 with
  | none => some []
  | some underline => scanFrom? lines underline

section

variable {p : Line → Bool} (before : List Line) {skipped : List Line}

lemma findFrom_eq_none (h : ∀ line ∈ skipped, p line = false) :
    findFrom p (before ++ skipped) before.length = none := by
  rw [findFrom, List.drop_left, List.findIdx?_eq_none_iff.mpr h, Option.map_none]

lemma findFrom_eq_some {line : Line} (h : ∀ line ∈ skipped, p line = false) (hline : p line = true)
    (rest : List Line) : findFrom p (before ++ (skipped ++ line :: rest)) before.length
      = some (before ++ skipped).length := by
  rw [findFrom, List.drop_left, List.findIdx?_append, List.findIdx?_eq_none_iff.mpr h,
    List.findIdx?_cons, if_pos hline, List.length_append]
  simp [Nat.add_comm]

/-- The fillers end where the first other line stands. -/
lemma findFrom_not_filler {first : Line} (h : ∀ line ∈ skipped, isFiller line = true)
    (hfirst : isFiller first = false) (rest : List Line) :
    findFrom (!isFiller ·) (before ++ (skipped ++ first :: rest)) before.length
      = some (before ++ skipped).length :=
  findFrom_eq_some before (fun line hline => by simp [h line hline]) (by simp [hfirst]) rest

lemma slice?_append (content rest : List Line) :
    slice? (before ++ (content ++ rest)) before.length (before ++ content).length
      = some content := by
  rw [slice?, if_pos (by simp), List.drop_left]
  simp

end

lemma heading?_append (before rest : List Line) :
    heading? (before ++ rest) before.length = some (before.getLast?.getD []) := by
  rw [heading?]
  cases hlast : before.getLast? with
  | none => simp [List.getLast?_eq_none_iff.mp hlast]
  | some heading =>
    obtain ⟨front, rfl⟩ := List.getLast?_eq_some_iff.mp hlast
    simp

section

variable {lines : List Line} {underline : Nat} {heading : Line}

lemma scanFrom?_fillers (hheading : heading? lines underline = some heading)
    (hstart : findFrom (!isFiller ·) lines (underline + 1) = none) :
    scanFrom? lines underline = some [] := by
  rw [scanFrom?, hheading, Option.bind_eq_bind, Option.bind_some]
  split
  · rfl
  · next h => rw [hstart] at h; cases h

lemma scanFrom?_last {start : Nat} {content : List Line}
    (hheading : heading? lines underline = some heading)
    (hstart : findFrom (!isFiller ·) lines (underline + 1) = some start)
    (hnext : findFrom isUnderline lines start = none)
    (hcontent : slice? lines start lines.length = some content) :
    scanFrom? lines underline = some (query heading content) := by
  rw [scanFrom?, hheading, Option.bind_eq_bind, Option.bind_some]
  split
  · next h => rw [hstart] at h; cases h
  · next h =>
    obtain rfl := Option.some.inj (hstart.symm.trans h)
    split
    · rw [hcontent]; rfl
    · next h => rw [hnext] at h; cases h

lemma scanFrom?_next {start next : Nat} {content : List Line} {more : List (String × String)}
    (hheading : heading? lines underline = some heading)
    (hstart : findFrom (!isFiller ·) lines (underline + 1) = some start)
    (hnext : findFrom isUnderline lines start = some next)
    (hcontent : slice? lines start (max (next - 1) start) = some content)
    (hmore : scanFrom? lines next = some more) :
    scanFrom? lines underline = some (query heading content ++ more) := by
  rw [scanFrom?, hheading, Option.bind_eq_bind, Option.bind_some]
  split
  · next h => rw [hstart] at h; cases h
  · next h =>
    obtain rfl := Option.some.inj (hstart.symm.trans h)
    split
    · next h => rw [hnext] at h; cases h
    · next h =>
      obtain rfl := Option.some.inj (hnext.symm.trans h)
      rw [hcontent, Option.bind_eq_bind, Option.bind_some, hmore]
      rfl

end

/-- Reading by position from an underline on finds what reading line by line does. The induction is
on the number of lines that are left. -/
lemma scanFrom?_append (before rest : List Line) (underline : Line) :
    scanFrom? (before ++ underline :: rest) before.length
      = some (queriesFrom (before.getLast?.getD []) underline rest) := by
  have hheading := heading?_append before (underline :: rest)
  have hunder : before.length + 1 = (before ++ [underline]).length := by simp
  rw [List.append_cons] at hheading ⊢
  cases under rest with
  | fillers hfillers =>
    have hnot : ∀ line ∈ rest, (!isFiller line) = false := fun line hline => by
      simp [hfillers line hline]
    rw [queriesFrom_fillers hfillers]
    exact scanFrom?_fillers hheading (hunder ▸ findFrom_eq_none _ hnot)
  | @last fillers content first hfillers hfirst hcontent =>
    have hstart := findFrom_not_filler (before ++ [underline]) hfillers hfirst content
    rw [queriesFrom_last hfillers hfirst hcontent]
    rw [← List.append_assoc (before ++ [underline])] at hheading hstart ⊢
    have hnext := findFrom_eq_none (before ++ [underline] ++ fillers) hcontent
    have hslice := slice?_append (before ++ [underline] ++ fillers) (first :: content) []
    rw [List.append_nil] at hslice
    exact scanFrom?_last hheading (hunder ▸ hstart) hnext hslice
  | @next fillers content rest next hfillers hbegins hcontent hnext =>
    obtain ⟨first, body, hbody, hfirst⟩ := exists_first_of_next hbegins hnext rest
    have hstart := findFrom_not_filler (before ++ [underline]) hfillers hfirst body
    have hlast : (before ++ [underline] ++ fillers ++ content).getLast?
        = (underline :: fillers ++ content).getLast? := by
      rw [List.append_assoc before, List.append_assoc before]
      exact List.getLast?_append_of_ne_nil before (List.cons_ne_nil underline _)
    have hmore := scanFrom?_append (before ++ [underline] ++ fillers ++ content) rest next
    rw [queriesFrom_next hfillers hbegins hcontent hnext, ← hlast]
    rw [← hbody] at hstart
    rw [← List.append_assoc (before ++ [underline])] at hheading hstart ⊢
    rw [List.append_assoc (before ++ [underline] ++ fillers) content] at hmore
    generalize before ++ [underline] ++ fillers = upto at *
    have hfound := findFrom_eq_some upto hcontent hnext rest
    -- the last line of the content is the next heading, unless there is no content
    have hslice := slice?_append upto content.dropLast
      (content.drop (content.length - 1) ++ next :: rest)
    have hcut : content.dropLast ++ (content.drop (content.length - 1) ++ next :: rest)
        = content ++ next :: rest := by
      rw [← List.append_assoc, List.dropLast_eq_take, List.take_append_drop]
    have hstop : (upto ++ content.dropLast).length
        = max ((upto ++ content).length - 1) upto.length := by
      simp
      omega
    rw [hcut, hstop] at hslice
    exact scanFrom?_next hheading (hunder ▸ hstart) hfound hslice hmore
termination_by rest.length
decreasing_by simp; omega

/-- Reading by position finds the queries of a text, and no position is out of range. -/
lemma scan?_linesOf (text : String) : scan? (linesOf text) = some (queriesOf text) := by
  have hbefore : ∀ line ∈ (linesOf text).takeWhile (!isUnderline ·), isUnderline line = false :=
    fun line hline => by simpa using List.mem_takeWhile_imp hline
  have hlines : (linesOf text).takeWhile (!isUnderline ·) ++
      (linesOf text).dropWhile (!isUnderline ·) = linesOf text :=
    List.takeWhile_append_dropWhile
  rw [scan?, queriesOf]
  cases hrest : (linesOf text).dropWhile (!isUnderline ·) with
  | nil =>
    rw [hrest, List.append_nil] at hlines
    have hnone := findFrom_eq_none [] hbefore
    rw [hlines, List.nil_append, List.length_nil] at hnone
    rw [hnone]
  | cons underline rest =>
    rw [hrest] at hlines
    have hunderline : isUnderline underline = true := by
      simpa [hrest] using List.head?_dropWhile_not (!isUnderline ·) (linesOf text)
    have hfound := findFrom_eq_some [] hbefore hunderline rest
    rw [hlines, List.nil_append, List.nil_append, List.length_nil] at hfound
    rw [hfound]
    have hscan := scanFrom?_append ((linesOf text).takeWhile (!isUnderline ·)) rest underline
    rw [hlines] at hscan
    exact hscan

/-- Reading gives back the queries a document was written from, in their order, and reading any text
by the positions of its lines never leaves their range and finds the queries of the text. -/
theorem queriesOf_written :
    (∀ doc : Document, queriesOf doc.text = doc.queries) ∧
      ∀ text, scan? (linesOf text) = some (queriesOf text) :=
  ⟨queriesOf_text, scan?_linesOf⟩

/-- A query with a remark, a blank line and fences around it. -/
def listEntry : Entry where
  id := "list"
  sql := "SELECT *\nFROM user"
  underline := "===\r".toList
  fillers := ["* all".toList, [], "~~~sql".toList]
  closing := some "~~~".toList
  blanks := [[]]
  id_ne_empty := by decide
  id_trimmed := by cbv
  id_unbroken := by decide
  id_not_underline := by cbv
  sql_no_return := by decide
  sql_lines := by
    have hlines : "SELECT *\nFROM user".toList.splitOn '\n'
        = ["SELECT *".toList, "FROM user".toList] := by
      cbv
    rw [hlines]
    simp only [List.forall_mem_cons]
    exact ⟨⟨by cbv, by cbv⟩, ⟨by cbv, by cbv⟩, by simp⟩
  sql_first := by
    have hfirst : ("SELECT *\nFROM user".toList.splitOn '\n').head? = some "SELECT *".toList := by
      cbv
    have htrim : Text.trim "SELECT *".toList = "SELECT *".toList := by cbv
    rw [hfirst]
    rintro line ⟨⟩
    rw [htrim]
    decide
  sql_trimmed := by cbv
  underline_ok := by decide
  fillers_ok := by
    simp only [List.forall_mem_cons]
    exact ⟨⟨by decide, .inr (.inl (by cbv))⟩, ⟨by decide, .inl nofun⟩,
      ⟨by decide, .inr (.inr (by cbv))⟩, by simp⟩
  closing_ok := by
    rintro line ⟨⟩
    exact ⟨by decide, by cbv⟩
  blanks_ok := by simp

/-- A document with a header and one query. -/
theorem queriesOf_written_list : ∃ doc : Document,
    doc.text = "# users\nlist\n===\r\n* all\n\n~~~sql\nSELECT *\nFROM user\n~~~\n" ∧
      queriesOf doc.text = [("list", "SELECT *\nFROM user")] :=
  ⟨⟨["# users".toList], [listEntry], by decide⟩, by cbv, queriesOf_written.1 _⟩

end Registry

end QueryLoom

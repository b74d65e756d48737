import QueryLoom.Proofs.Mentions

/-!
# Texts that insert one template

The shortest text that inserts a template is read to that insertion and nothing else, and mentions
that template alone.
-/

namespace QueryLoom.Template

/-! ### Names -/

/-- A name that can be mentioned. -/
structure IsMentionName (name : String) : Prop where
  ne_nil : name.toList ≠ []
  chars : ∀ c ∈ name.toList, isMentionChar c = true

lemma isTemplateChar_of_isMentionChar {c : Char} (h : isMentionChar c = true) :
    Tag.isTemplateChar c = true := by
  simp only [isMentionChar, Bool.or_eq_true] at h
  simp only [Tag.isTemplateChar, Reference.isSymbol, Reference.isSeparator, Bool.or_eq_true]
  tauto

lemma ne_of_isMentionChar {c d : Char} (h : isMentionChar c = true)
    (hd : isMentionChar d = false) : c ≠ d := by
  rintro rfl
  rw [h] at hd
  cases hd

lemma isBlank_of_isMentionChar {c : Char} (h : isMentionChar c = true) :
    Text.isBlank c = false := by
  have hrange : 0x2d ≤ c.toNat ∧ c.toNat ≤ 0x7a := by
    simp only [isMentionChar, Text.isAsciiAlphanumeric, Text.isAsciiLetter, Text.isAsciiDigit,
      Bool.or_eq_true, Bool.and_eq_true, decide_eq_true_eq, beq_iff_eq, Char.le_def,
      UInt32.le_iff_toNat_le, Char.toNat_val] at h
    rcases h with (((((⟨h, h'⟩ | ⟨h, h'⟩) | ⟨h, h'⟩) | rfl) | rfl) | rfl) | rfl
    · exact ⟨Nat.le_trans (by decide) h, Nat.le_trans h' (by decide)⟩
    · exact ⟨Nat.le_trans (by decide) h, Nat.le_trans h' (by decide)⟩
    · exact ⟨Nat.le_trans (by decide) h, Nat.le_trans h' (by decide)⟩
    all_goals decide
  simp only [Text.isBlank, Bool.or_eq_false_iff, Bool.and_eq_false_iff, decide_eq_false_iff_not,
    beq_eq_false_iff_ne]
  omega

lemma isSpace_of_isMentionChar {c : Char} (h : isMentionChar c = true) :
    Reference.isSpace c = false := by
  rw [← Bool.not_eq_true]
  simp only [Reference.isSpace, Bool.or_eq_true, beq_iff_eq]
  rintro (((rfl | rfl) | rfl) | rfl) <;> cases h

/-! ### Ends of tags -/

/-- A name and the end of its tag. -/
def closed (name : List Char) : List Char := name ++ ['\x7d', '\x7d']

lemma takeWhile_closed {p : Char → Bool} {name : List Char} (h : ∀ c ∈ name, p c = true)
    (hend : p '\x7d' = false) (rest : List Char) :
    (closed name ++ rest).takeWhile p = name := by
  rw [closed, List.append_assoc, List.takeWhile_append_of_pos h, List.cons_append,
    List.takeWhile_cons_of_neg (by simp [hend]), List.append_nil]

lemma dropWhile_closed {p : Char → Bool} {name : List Char} (hne : name ≠ [])
    (h : ∀ c ∈ name, p c = false) (rest : List Char) :
    (closed name ++ rest).dropWhile p = closed name ++ rest := by
  cases name with
  | nil => exact absurd rfl hne
  | cons c name =>
    rw [closed, List.cons_append, List.cons_append, List.dropWhile_cons_of_neg]
    simp [h c List.mem_cons_self]

lemma drop_closed (name rest : List Char) :
    (closed name ++ rest).drop name.length = '\x7d' :: '\x7d' :: rest := by
  rw [closed, List.append_assoc, List.drop_left]
  rfl

/-! ### Reading -/

/-- The text that inserts a template and nothing else. -/
def insertionOf (name : String) : String :=
  String.ofList ('\x7b' :: '\x7b' :: '>' :: closed name.toList)

/-- The tag that inserts a template. -/
def insertionTag (name : String) : Tag :=
  ⟨.insertion ⟨.name name, [], [], []⟩, false, false⟩

lemma readTemplateName_closed {name : List Char} (hne : name ≠ [])
    (h : ∀ c ∈ name, Tag.isTemplateChar c = true) (rest : List Char) :
    Tag.readTemplateName? (closed name ++ rest) = some (name, '\x7d' :: '\x7d' :: rest) := by
  have htake := takeWhile_closed h (by decide) rest
  have hdrop := drop_closed name rest
  cases name with
  | nil => exact absurd rfl hne
  | cons c name =>
    rw [closed, List.cons_append, List.cons_append] at htake hdrop ⊢
    rw [Tag.readTemplateName?]
    · rw [htake, hdrop]
      rfl
    · rintro rest' heq
      have hquote := h c List.mem_cons_self
      rw [(List.cons.inj heq).1] at hquote
      cases hquote

lemma read_insertion {name : String} (h : IsMentionName name) :
    Tag.read? ('>' :: closed name.toList) = some (insertionTag name, []) := by
  have hskip : Reference.skipSpace (closed name.toList) = closed name.toList := by
    have hdrop := dropWhile_closed h.ne_nil
      (fun c hc => isSpace_of_isMentionChar (h.chars c hc)) []
    rwa [List.append_nil] at hdrop
  have htemplate : Tag.readTemplate? (closed name.toList) =
      some (⟨.name name, [], [], []⟩, ['\x7d', '\x7d']) := by
    have hread := readTemplateName_closed h.ne_nil
      (fun c hc => isTemplateChar_of_isMentionChar (h.chars c hc)) []
    rw [List.append_nil] at hread
    rw [Tag.readTemplate?, hread]
    simp only [String.ofList_toList]
    rfl
  have hmarked : Tag.readMarked? false ('>' :: closed name.toList) =
      some (insertionTag name, []) := by
    rw [Tag.readMarked?, hskip, htemplate]
    rfl
  rw [← hmarked]
  rfl

/-! ### Tags after their braces -/

section

variable {inside : List Char} {t : Tag}

lemma stripLead_brace (hinside : inside.head? ≠ some '\x7b') (more : List Char) :
    Text.stripLead? ('\x7b' :: more) inside = none := by
  cases inside with
  | nil => rfl
  | cons c cs =>
    have hne : '\x7b' ≠ c := fun heq => hinside (congrArg some heq.symm)
    rw [Text.stripLead?, if_neg (by simpa using hne)]

lemma head?_ne_brace (hbrace : '\x7b' ∉ inside) : inside.head? ≠ some '\x7b' :=
  fun hhead => hbrace (List.mem_of_mem_head? hhead)

lemma readTag?_of_read? {rest : List Char} (hread : Tag.read? inside = some (t, rest))
    (hinside : inside.head? ≠ some '\x7b') (lineBlank : Bool) :
    Piece.readTag? lineBlank (Piece.braces ++ inside) =
      some ([.tag t (lineBlank && Piece.lineEnds rest)], rest) := by
  have hwide : Text.stripLead? Piece.wideBraces (Piece.braces ++ inside) = none :=
    stripLead_brace hinside _
  have hbraces : Text.stripLead? Piece.braces (Piece.braces ++ inside) = some inside := rfl
  rw [Piece.readTag?, hwide, hbraces]
  simp only [bind, Option.bind, hread]
  rfl

/-! ### Lone tags -/

/-- A text that is one tag is read to that tag. -/
lemma ofText_of_read? (hread : Tag.read? inside = some (t, [])) (hbrace : '\x7b' ∉ inside) :
    Piece.ofText? (Piece.braces ++ inside) = some [.tag t true] := by
  have htag : Piece.readTag? true (Piece.braces ++ inside) = some ([.tag t true], []) :=
    readTag?_of_read? hread (head?_ne_brace hbrace) true
  have hrun : Piece.readRun Piece.braces false (Piece.braces ++ inside) =
      ([], Piece.braces ++ inside) := rfl
  have hline : Piece.lineBlankAfter true [] = true := rfl
  have hempty : (Piece.braces ++ inside).isEmpty = false := rfl
  rw [Piece.ofText?, Piece.readAll?, hrun]
  simp only [hempty]
  rw [hline, htag]
  rfl

/-- A text that is the tag of an insertion is read to that insertion. -/
lemma parse_of_read? (hread : Tag.read? inside = some (t, [])) (hbrace : '\x7b' ∉ inside)
    {i : Invocation} (hrole : t.role = .insertion i) :
    Node.parse (String.ofList (Piece.braces ++ inside)) = .ok [.insertion i none] := by
  rw [Node.parse, String.toList_ofList, ofText_of_read? hread hbrace]
  have hlayout : Piece.layOut false false [.tag t true] = [.tag t true] := by
    simp [Piece.layOut, hrole]
  have hadd : Node.Building.add .empty (.tag t true) = .ok ⟨[], [.insertion i none]⟩ := by
    rw [Node.Building.add, hrole]
    rfl
  change Node.ofPieces (Piece.layOut false false [.tag t true]) = _
  rw [hlayout, Node.ofPieces, List.foldlM_cons, hadd]
  rfl

end

lemma brace_notMem_closed {name : String} (h : IsMentionName name) :
    '\x7b' ∉ '>' :: closed name.toList := by
  intro hmem
  rcases List.mem_cons.mp hmem with hmem | hmem
  · revert hmem
    decide
  · rcases List.mem_append.mp hmem with hmem | hmem
    · exact ne_of_isMentionChar (h.chars _ hmem) (by decide) rfl
    · revert hmem
      decide

lemma parse_insertionOf {name : String} (h : IsMentionName name) :
    Node.parse (insertionOf name) = .ok [.insertion ⟨.name name, [], [], []⟩ none] :=
  parse_of_read? (read_insertion h) (brace_notMem_closed h) rfl

/-! ### Mentions -/

lemma mentions_append {lead : List Char} (h : '\x7b' ∉ lead) (rest : List Char) :
    mentions (lead ++ rest) = mentions rest := by
  induction lead with
  | nil => rfl
  | cons c lead ih =>
    rw [List.mem_cons, not_or] at h
    have hbrace : ('\x7b' == c) = false := by simpa using h.1
    have hnone : mention? (c :: (lead ++ rest)) = none := by
      simp [mention?, Text.stripLead?, hbrace]
    rw [List.cons_append, mentions, hnone, ih h.2]
    rfl

lemma mentions_eq_nil {cs : List Char} (h : '\x7b' ∉ cs) : mentions cs = [] := by
  have happend := mentions_append h []
  rwa [List.append_nil] at happend

lemma mention_insertion {name : String} (h : IsMentionName name) :
    mention? ('\x7b' :: '\x7b' :: '>' :: closed name.toList) = some name := by
  have htrim : Text.trimStart (closed name.toList) = closed name.toList := by
    have hdrop := dropWhile_closed h.ne_nil
      (fun c hc => isBlank_of_isMentionChar (h.chars c hc)) []
    rwa [List.append_nil] at hdrop
  have htake : (closed name.toList).takeWhile isMentionChar = name.toList := by
    have htake := takeWhile_closed h.chars (by decide) []
    rwa [List.append_nil] at htake
  have hnonempty : name.toList.isEmpty = false := List.isEmpty_eq_false_iff.mpr h.ne_nil
  change (if ((Text.trimStart (closed name.toList)).takeWhile isMentionChar).isEmpty then none
    else some (String.ofList ((Text.trimStart (closed name.toList)).takeWhile isMentionChar))) =
      some name
  rw [htrim, htake, hnonempty, String.ofList_toList]
  rfl

/-- A text that is one tag mentions a name behind its braces or none. -/
lemma mentions_of_lone {inside : List Char} (hbrace : '\x7b' ∉ inside) :
    mentions (Piece.braces ++ inside) = (mention? (Piece.braces ++ inside)).toList := by
  have hsecond : mention? ('\x7b' :: inside) = none := by
    change (Text.stripLead? ['\x7b'] inside).bind _ = none
    rw [stripLead_brace (head?_ne_brace hbrace)]
    rfl
  change _ ++ ((mention? ('\x7b' :: inside)).toList ++ mentions inside) = _
  rw [hsecond, mentions_eq_nil hbrace]
  exact List.append_nil _

lemma namesIn_insertionOf {name : String} (h : IsMentionName name) :
    Store.namesIn (insertionOf name) = [name] := by
  have hmentions : mentions (insertionOf name).toList = [name] := by
    rw [insertionOf, String.toList_ofList]
    exact (mentions_of_lone (brace_notMem_closed h)).trans
      (congrArg Option.toList (mention_insertion h))
  rw [Store.namesIn, hmentions]
  rfl

end QueryLoom.Template

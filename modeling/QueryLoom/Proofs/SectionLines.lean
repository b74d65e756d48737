import QueryLoom.Proofs.InsertionText
import QueryLoom.Proofs.SpelledIdents
import QueryLoom.Proofs.Tokens.Literals

/-!
# Lines with sections

A line of a template holds text, values between braces and sections, whose bodies are lines again.
A line of plain names and plain text is read to the forest that it shows, and mentions no template.
-/

namespace QueryLoom.Template

open Reference (isSymbol isSpace skipSpace readName?)

/-! ### Names and texts -/

/-- A plain identifier that means neither a function nor a helper, and nothing in the language of
templates. -/
structure IsFreeName (name : String) : Prop where
  plain : Ident.isPlain name.toList = true
  function : Function.ofName? name = none
  helper : Helper.ofName? name = none
  keyword : name ∉ ["this", "else", "as"]

/-- A free name that begins no alternative where it stands alone between braces. -/
structure IsValueName (name : String) : Prop extends IsFreeName name where
  alternative : ¬ "else".toList <+: name.toList

/-- Text without the signs of tags, within one line. -/
def IsPlainText (cs : List Char) : Prop :=
  ∀ c ∈ cs, c ≠ '\x7b' ∧ c ≠ '\\' ∧ Piece.isLineEnd c = false

lemma isPlainText_nil : IsPlainText [] := List.forall_mem_nil _

lemma isSymbol_of_isPlainChar {c : Char} (h : Ident.isPlainChar c = true) : isSymbol c = true := by
  simp only [Ident.isPlainChar, Bool.or_eq_true] at h
  simp only [isSymbol, Bool.or_eq_true]
  tauto

lemma isSpace_of_isPlainChar {c : Char} (h : Ident.isPlainChar c = true) : isSpace c = false := by
  rw [← Bool.not_eq_true]
  simp only [isSpace, Bool.or_eq_true, beq_iff_eq]
  rintro (((rfl | rfl) | rfl) | rfl) <;> cases h

namespace IsFreeName

variable {name : String}

lemma chars (h : IsFreeName name) : ∀ c ∈ name.toList, Ident.isPlainChar c = true :=
  Ident.isPlainChar_of_isPlain h.plain

/-- The first character of the name is none that has a meaning in a tag. -/
lemma exists_cons (h : IsFreeName name) :
    ∃ c cs, name.toList = c :: cs ∧ ∀ d, Ident.isPlainChar d = false → c ≠ d := by
  cases hname : name.toList with
  | nil =>
    have hplain := h.plain
    rw [hname] at hplain
    cases hplain
  | cons c cs =>
    refine ⟨c, cs, rfl, ?_⟩
    rintro _ hd rfl
    rw [h.chars c (by simp [hname])] at hd
    cases hd

lemma ne_nil (h : IsFreeName name) : name.toList ≠ [] := by
  obtain ⟨c, cs, hname, -⟩ := h.exists_cons
  rw [hname]
  exact List.cons_ne_nil c cs

/-- The name begins with no sign that has a meaning in a tag. -/
lemma closed_ne (h : IsFreeName name) {d : Char} (hd : Ident.isPlainChar d = false)
    (rest more : List Char) : closed name.toList ++ rest ≠ d :: more := by
  obtain ⟨c, cs, hname, hne⟩ := h.exists_cons
  rw [hname]
  exact fun heq => hne d hd (List.cons.inj heq).1

/-- The only step of a reference by the name. -/
lemma nameStep_eq (h : IsFreeName name) : Reference.nameStep name.toList = [.name name] := by
  have hthis : name.toList ≠ "this".toList := fun heq => by
    have hkeyword := h.keyword
    simp [String.toList_injective heq] at hkeyword
  rw [Reference.nameStep, beq_eq_false_iff_ne.mpr hthis, String.ofList_toList]
  rfl

end IsFreeName

/-! ### Lines -/

/-- A line of a template: text; text, a value and what follows; text, a section and what
follows. -/
inductive Line where
  | text (cs : List Char)
  | value (lead : List Char) (name : String) (rest : Line)
  | nested (lead : List Char) (name : String) (body rest : Line)

/-- A tag as it is written. -/
def tagged (inside : List Char) : List Char := Piece.braces ++ closed inside

/-- What the tag of a value is about. -/
def valueOf (name : String) : Invocation := ⟨.reference ⟨name, [.name name]⟩, [], [], []⟩

/-- What the tag that opens a section is about. -/
def sectionOf (name : String) : Invocation := ⟨.name name, [], [], []⟩

/-- The tag of a value. -/
def valueTag (name : String) : Tag := ⟨.output (valueOf name), false, false⟩

/-- The tag that opens a section. -/
def openingTag (name : String) : Tag := ⟨.opening .helper (sectionOf name), false, false⟩

/-- The tag that closes a section. -/
def closingTag (name : String) : Tag := ⟨.closing false name, false, false⟩

/-- The nodes of a run of text. -/
def textNodes (cs : List Char) : List Node :=
  if cs.isEmpty then [] else [.text (String.ofList cs)]

namespace Line

/-- The line as it is written. -/
def source : Line → List Char
  | .text cs => cs
  | .value lead name rest => lead ++ tagged name.toList ++ rest.source
  | .nested lead name body rest =>
    lead ++ tagged ('#' :: name.toList) ++ body.source ++ tagged ('/' :: name.toList) ++ rest.source

/-- All names and texts of the line are plain. -/
def WellFormed : Line → Prop
  | .text cs => IsPlainText cs
  | .value lead name rest => IsPlainText lead ∧ IsValueName name ∧ rest.WellFormed
  | .nested lead name body rest =>
    IsPlainText lead ∧ IsFreeName name ∧ body.WellFormed ∧ rest.WellFormed

/-- The number of tags of the line. -/
def size : Line → Nat
  | .text _ => 0
  | .value _ _ rest => rest.size + 1
  | .nested _ _ body rest => body.size + rest.size + 2

end Line

/-! ### Tags -/

section Tags

variable {name : String}

lemma readName?_closed (h : IsFreeName name) (rest : List Char) :
    readName? (closed name.toList ++ rest) = some (name.toList, '\x7d' :: '\x7d' :: rest) := by
  have htake : (closed name.toList ++ rest).takeWhile isSymbol = name.toList :=
    takeWhile_closed (fun c hc => isSymbol_of_isPlainChar (h.chars c hc)) (by decide) rest
  rw [readName?, htake, drop_closed]
  simp [h.ne_nil]

lemma skipSpace_closed (h : IsFreeName name) (rest : List Char) :
    skipSpace (closed name.toList ++ rest) = closed name.toList ++ rest :=
  dropWhile_closed h.ne_nil (fun c hc => isSpace_of_isPlainChar (h.chars c hc)) rest

lemma readAll_brace (budget : Nat) (rest : List Char) :
    Argument.readAll budget ('\x7d' :: rest) = ([], [], '\x7d' :: rest) := by
  rcases budget with _ | _ | _ | budget <;> rfl

lemma readHelper?_closed (h : IsFreeName name) (rest : List Char) :
    Tag.readHelper? (closed name.toList ++ rest) =
      some (sectionOf name, '\x7d' :: '\x7d' :: rest) := by
  rw [Tag.readHelper?, readName?_closed h]
  simp only [bind, Option.bind, readAll_brace, String.ofList_toList]
  rfl

lemma read?_opening (h : IsFreeName name) (rest : List Char) :
    Tag.read? (closed ('#' :: name.toList) ++ rest) = some (openingTag name, rest) := by
  have hopening : Tag.readOpening? false (closed name.toList ++ rest) =
      some (openingTag name, rest) := by
    rw [Tag.readOpening?, readHelper?_closed h]
    · rfl
    · exact h.closed_ne (by decide) rest
    · exact h.closed_ne (by decide) rest
  change Tag.readOpening? false (skipSpace (closed name.toList ++ rest)) = _
  rw [skipSpace_closed h, hopening]

lemma read?_closing (h : IsFreeName name) (rest : List Char) :
    Tag.read? (closed ('/' :: name.toList) ++ rest) = some (closingTag name, rest) := by
  change (Tag.readTemplateName? (skipSpace (closed name.toList ++ rest))).bind (fun found =>
    Tag.finish? false (.closing false (String.ofList found.1)) found.2) = _
  have hchars (c : Char) (hc : c ∈ name.toList) : Tag.isTemplateChar c = true := by
    simp [Tag.isTemplateChar, isSymbol_of_isPlainChar (h.chars c hc)]
  rw [skipSpace_closed h, readTemplateName_closed h.ne_nil hchars, Option.bind_some,
    String.ofList_toList]
  rfl

/-- What follows a piece in front of a name and its braces, if the piece is in front. -/
lemma exists_of_stripLead?_closed {lead cs rest rest' : List Char} (hlead : '\x7d' ∉ lead)
    (h : Text.stripLead? lead (closed cs ++ rest) = some rest') :
    ∃ more, cs = lead ++ more ∧ rest' = closed more ++ rest := by
  induction lead generalizing cs with
  | nil => exact ⟨cs, rfl, (Option.some.inj h).symm⟩
  | cons l lead ih =>
    rw [List.mem_cons, not_or] at hlead
    cases cs with
    | nil =>
      have hl : (l == '\x7d') = false := by simpa using Ne.symm hlead.1
      rw [closed, List.nil_append, List.cons_append, Text.stripLead?, hl] at h
      cases h
    | cons c cs =>
      rw [closed, List.cons_append, List.cons_append, Text.stripLead?] at h
      split_ifs at h with hc
      obtain ⟨more, rfl, hrest⟩ := ih hlead.2 h
      exact ⟨more, by rw [eq_of_beq hc, List.cons_append], hrest⟩

lemma stripLead?_closed {lead : List Char} (h : IsFreeName name) (hlead : '\x7d' ∉ lead)
    {c : Char} (hc : c ∈ lead) (hplain : Ident.isPlainChar c = false) (rest : List Char) :
    Text.stripLead? lead (closed name.toList ++ rest) = none := by
  by_contra hne
  obtain ⟨rest', hsome⟩ := Option.ne_none_iff_exists'.mp hne
  obtain ⟨more, hname, -⟩ := exists_of_stripLead?_closed hlead hsome
  rw [h.chars c (by rw [hname]; exact List.mem_append_left more hc)] at hplain
  cases hplain

/-- A name is no mention of the current value in front of more. -/
lemma afterCurrent_closed (h : IsFreeName name) (rest : List Char) :
    Reference.afterCurrent (closed name.toList ++ rest) = closed name.toList ++ rest := by
  have hthis : (Text.stripLead? "this".toList (closed name.toList ++ rest)).bind
      Reference.afterSeparator? = none := by
    cases hstrip : Text.stripLead? "this".toList (closed name.toList ++ rest) with
    | none => rfl
    | some rest' =>
      obtain ⟨more, hname, rfl⟩ := exists_of_stripLead?_closed (by decide) hstrip
      cases more with
      | nil => rfl
      | cons c cs =>
        have hc : Ident.isPlainChar c = true := h.chars c (by simp [hname])
        have hseparator : Reference.isSeparator c = false := by
          rw [← Bool.not_eq_true, Reference.isSeparator, Bool.or_eq_true, beq_iff_eq, beq_iff_eq]
          rintro (rfl | rfl) <;> cases hc
        rw [Option.bind_some, closed, List.cons_append, List.cons_append,
          Reference.afterSeparator?, hseparator]
        rfl
  rw [Reference.afterCurrent, hthis]
  dsimp only
  rw [stripLead?_closed h (c := '.') (by decide) (by decide) (by decide)]
  rfl

lemma readOrigin_closed (h : IsFreeName name) (rest : List Char) :
    Reference.readOrigin (closed name.toList ++ rest) = ([], closed name.toList ++ rest) := by
  rw [Reference.readOrigin, stripLead?_closed h (c := '@') (by decide) (by decide) (by decide)]
  dsimp only [Option.bind_none]
  split
  · next heq => exact absurd heq (h.closed_ne (by decide) rest _)
  · rfl

lemma readUps_closed (h : IsFreeName name) (budget : Nat) (rest : List Char) :
    Reference.readUps budget (closed name.toList ++ rest) = ([], closed name.toList ++ rest) := by
  cases budget with
  | zero => rfl
  | succ budget =>
    rw [Reference.readUps, stripLead?_closed h (c := '.') (by decide) (by decide) (by decide)]
    rfl

lemma readItem?_closed (h : IsFreeName name) (rest : List Char) :
    Reference.readItem? (closed name.toList ++ rest) =
      some (name.toList, '\x7d' :: '\x7d' :: rest) := by
  rw [Reference.readItem?, readName?_closed h]
  exact h.closed_ne (by decide) rest

lemma read?_closed (h : IsFreeName name) (rest : List Char) :
    Reference.read? (closed name.toList ++ rest) =
      some (⟨name, [.name name]⟩, '\x7d' :: '\x7d' :: rest) := by
  have htext : (closed name.toList ++ rest).take
      ((closed name.toList ++ rest).length - ('\x7d' :: '\x7d' :: rest).length) =
        name.toList := by
    simp [closed]
  have hitems : Reference.readItems ('\x7d' :: '\x7d' :: rest).length
      ('\x7d' :: '\x7d' :: rest) = ([], '\x7d' :: '\x7d' :: rest) := rfl
  rw [Reference.read?, afterCurrent_closed h, readOrigin_closed h]
  simp only [readUps_closed h, readItem?_closed h, bind, Option.bind, hitems, htext,
    h.nameStep_eq, String.ofList_toList]
  rfl

lemma readPlainValue?_closed (h : IsFreeName name) (rest : List Char) :
    Tag.readPlainValue? (closed name.toList ++ rest) =
      some (valueOf name, '\x7d' :: '\x7d' :: rest) := by
  have hcall : Argument.readCall? ((closed name.toList ++ rest).length + 1)
      (closed name.toList ++ rest) = none := by
    rw [Argument.readCall?]
    exact h.closed_ne (by decide) rest
  rw [Tag.readPlainValue?, hcall, read?_closed h]
  rfl

lemma readOutput?_closed (h : IsFreeName name) (rest : List Char) :
    Tag.readOutput? false (closed name.toList ++ rest) = some (valueTag name, rest) := by
  have hvalue : Tag.readValue? (closed name.toList ++ rest) = none := by
    rw [Tag.readValue?, readName?_closed h]
    simp only [readAll_brace]
    rfl
  rw [Tag.readOutput?, hvalue]
  simp only [bind, Option.bind, readPlainValue?_closed h]
  rfl

lemma readAlternative?_closed (h : IsValueName name) (rest : List Char) :
    Tag.readAlternative? false (closed name.toList ++ rest) = none := by
  have helse : Text.stripLead? "else".toList (closed name.toList ++ rest) = none := by
    by_contra hne
    obtain ⟨rest', hsome⟩ := Option.ne_none_iff_exists'.mp hne
    obtain ⟨more, hname, -⟩ := exists_of_stripLead?_closed (by decide) hsome
    exact h.alternative ⟨more, hname.symm⟩
  have hafter : Tag.afterElse? (closed name.toList ++ rest) = none := by
    rw [Tag.afterElse?, helse]
    exact h.closed_ne (by decide) rest
  rw [Tag.readAlternative?, hafter]
  rfl

lemma read?_value (h : IsValueName name) (rest : List Char) :
    Tag.read? (closed name.toList ++ rest) = some (valueTag name, rest) := by
  have hbrace : Text.stripLead? ['\x7b'] (closed name.toList ++ rest) = none :=
    stripLead?_closed h.toIsFreeName (c := '\x7b') (by decide) (by decide) (by decide) rest
  have htilde : Tag.readTilde (closed name.toList ++ rest) =
      (false, closed name.toList ++ rest) := by
    rw [Tag.readTilde, skipSpace_closed h.toIsFreeName]
    split
    · next heq => exact absurd heq (h.closed_ne (by decide) rest _)
    · rfl
  have hmarked : Tag.readMarked? false (closed name.toList ++ rest) =
      some (valueTag name, rest) := by
    rw [Tag.readMarked?, readAlternative?_closed h, readOutput?_closed h.toIsFreeName]
    all_goals exact h.closed_ne (by decide) rest
  rw [Tag.read?, hbrace, Option.bind_none]
  · dsimp only
    rw [htilde]
    exact hmarked
  · exact h.closed_ne (by decide) rest

end Tags

/-! ### Runs of text -/

/-- The text is at its end or at a tag. -/
def AtTag (cs : List Char) : Prop := cs = [] ∨ Piece.braces <+: cs

/-- A run of plain text ends at the next tag. -/
lemma readRun_append {lead tail : List Char} (hlead : IsPlainText lead) (htail : AtTag tail) :
    Piece.readRun Piece.braces false (lead ++ tail) = (lead, tail) := by
  induction lead with
  | nil =>
    rcases htail with rfl | ⟨rest, rfl⟩
    · rfl
    · rfl
  | cons c lead ih =>
    obtain ⟨hbrace, hslash, -⟩ := hlead c List.mem_cons_self
    have hstart : Piece.startsWith Piece.braces (c :: (lead ++ tail)) = false := by
      have hc : ('\x7b' == c) = false := beq_eq_false_iff_ne.mpr (Ne.symm hbrace)
      change (if '\x7b' == c then _ else none).isSome = false
      rw [hc]
      rfl
    rw [List.cons_append, Piece.readRun]
    · rw [beq_eq_false_iff_ne.mpr hslash, hstart,
        ih fun d hd => hlead d (List.mem_cons_of_mem c hd)]
      rfl
    · rintro rest heq
      exact absurd heq hslash

/-- Plain text after more of its line leaves the line filled. -/
lemma lineBlankAfter_false {cs : List Char} (h : IsPlainText cs) :
    Piece.lineBlankAfter false cs = false := by
  induction cs with
  | nil => rfl
  | cons c cs ih =>
    have hend : Piece.isLineEnd c = false := (h c List.mem_cons_self).2.2
    have hrest := ih fun d hd => h d (List.mem_cons_of_mem c hd)
    rw [Piece.lineBlankAfter, List.foldl_cons, hend]
    exact hrest

/-- A tag after plain text is read with the text in front of it. -/
lemma readAll?_tag {lead inside rest : List Char} {t : Tag} (hlead : IsPlainText lead)
    (hread : Tag.read? inside = some (t, rest)) (hinside : inside.head? ≠ some '\x7b')
    (lineBlank : Bool) (budget : Nat) :
    Piece.readAll? lineBlank (budget + 1) (lead ++ (Piece.braces ++ inside)) =
      (Piece.readAll? false budget rest).map fun pieces => Piece.ofRun lead ++
        .tag t (Piece.lineBlankAfter lineBlank lead && Piece.lineEnds rest) :: pieces := by
  have hmore : (Piece.braces ++ inside).isEmpty = false := rfl
  rw [Piece.readAll?, readRun_append hlead (.inr ⟨inside, rfl⟩)]
  simp only [hmore, readTag?_of_read? hread hinside, bind, Option.bind]
  cases Piece.readAll? false budget rest with
  | none => rfl
  | some pieces =>
    simp only [Option.map_some, List.append_assoc]
    rfl

/-- Plain text is read with what follows. Whether its line is blank before it matters only to tags
that follow. -/
lemma readAll?_text {cs tail : List Char} (hcs : IsPlainText cs) (htail : AtTag tail)
    {lineBlank : Bool} (hblank : lineBlank = true → tail = []) (budget : Nat) :
    Piece.readAll? lineBlank budget (cs ++ tail) =
      (Piece.readAll? false budget tail).map (Piece.ofRun cs ++ ·) := by
  cases budget with
  | zero => rfl
  | succ budget =>
    rw [Piece.readAll?, Piece.readAll?, readRun_append hcs htail,
      ← List.nil_append tail, readRun_append isPlainText_nil htail]
    rcases htail with rfl | ⟨inside, rfl⟩
    · simp [Piece.ofRun]
    · obtain rfl : lineBlank = false :=
        Bool.eq_false_iff.mpr fun htrue => List.cons_ne_nil _ _ (hblank htrue)
      have hmore : (Piece.braces ++ inside).isEmpty = false := rfl
      have hfilled : Piece.lineBlankAfter false [] = false := rfl
      simp only [lineBlankAfter_false hcs, hfilled, List.nil_append, hmore, bind, Option.bind]
      cases Piece.readTag? false (Piece.braces ++ inside) with
      | none => rfl
      | some found =>
        obtain ⟨tags, rest⟩ := found
        cases hrest : Piece.readAll? false budget rest with
        | none => simp [hrest]
        | some pieces => simp [hrest, Piece.ofRun]

/-- Before a tag with nothing but plain text in front of it, no line ends. -/
lemma lineEnds_append {lead : List Char} (h : IsPlainText lead) (more : List Char) :
    Piece.lineEnds (lead ++ '\x7b' :: more) = false := by
  obtain ⟨c, rest, hdrop, hend⟩ : ∃ c rest,
      (lead ++ '\x7b' :: more).dropWhile Piece.isLineBlank = c :: rest ∧
        Piece.isLineEnd c = false := by
    induction lead with
    | nil => exact ⟨'\x7b', more, rfl, rfl⟩
    | cons c lead ih =>
      by_cases hblank : Piece.isLineBlank c = true
      · rw [List.cons_append, List.dropWhile_cons_of_pos hblank]
        exact ih fun d hd => h d (List.mem_cons_of_mem c hd)
      · exact ⟨c, _, List.dropWhile_cons_of_neg hblank, (h c List.mem_cons_self).2.2⟩
  rw [Piece.lineEnds, hdrop]
  exact hend

/-! ### Pieces -/

/-- The piece and what is next to it stay as they are when the pieces are laid out. -/
def Piece.Stays : Piece → Prop
  | .text _ => True
  | .tag t alone =>
    t.omitBefore = false ∧ t.omitAfter = false ∧ (alone = true → ∃ i, t.role = .output i)

lemma trimBefore_of_stays {next? : Option Piece} (h : ∀ p ∈ next?, p.Stays) (cs : List Char) :
    Piece.trimBefore next? cs = cs := by
  cases next? with
  | none => rfl
  | some p =>
    cases p with
    | text _ => rfl
    | tag t alone =>
      obtain ⟨hbefore, -, halone⟩ := h _ rfl
      rw [Piece.trimBefore, hbefore]
      cases alone with
      | false => cases t.role <;> rfl
      | true =>
        obtain ⟨i, hrole⟩ := halone rfl
        rw [hrole]
        rfl

lemma layOut_of_stays {pieces : List Piece} (h : ∀ p ∈ pieces, p.Stays) :
    Piece.layOut false false pieces = pieces := by
  induction pieces with
  | nil => rfl
  | cons p pieces ih =>
    have hrest := ih fun q hq => h q (List.mem_cons_of_mem p hq)
    cases p with
    | text cs =>
      have hnext : ∀ q ∈ pieces.head?, q.Stays := fun q hq =>
        h q (List.mem_cons_of_mem _ (List.mem_of_mem_head? hq))
      rw [Piece.layOut]
      simp only [Bool.false_and, Bool.false_eq_true, if_false, trimBefore_of_stays hnext, hrest]
    | tag t alone =>
      obtain ⟨-, hafter, halone⟩ := h _ List.mem_cons_self
      cases alone with
      | false => cases hrole : t.role <;> simp [Piece.layOut, hrole, hafter, hrest]
      | true =>
        obtain ⟨i, hrole⟩ := halone rfl
        simp [Piece.layOut, hrole, hafter, hrest]

namespace Line

/-- The pieces of the line. Its first tag can be alone only if it is a value; `lineBlank` says that
nothing but blanks stands before the line. -/
def pieces : Line → (lineBlank : Bool) → List Piece
  | .text cs, _ => Piece.ofRun cs
  | .value lead name rest, lineBlank =>
    Piece.ofRun lead ++ .tag (valueTag name)
      (Piece.lineBlankAfter lineBlank lead && Piece.lineEnds rest.source) :: rest.pieces false
  | .nested lead name body rest, _ =>
    Piece.ofRun lead ++ .tag (openingTag name) false ::
      (body.pieces false ++ .tag (closingTag name) false :: rest.pieces false)

lemma stays_ofRun {cs : List Char} : ∀ p ∈ Piece.ofRun cs, p.Stays := by
  intro p hp
  rw [Piece.ofRun] at hp
  split_ifs at hp
  · cases hp
  · obtain rfl := List.mem_singleton.mp hp
    exact trivial

lemma stays_pieces (l : Line) (lineBlank : Bool) : ∀ p ∈ l.pieces lineBlank, p.Stays := by
  induction l generalizing lineBlank with
  | text cs => exact stays_ofRun
  | value lead name rest ih =>
    simp only [pieces, List.forall_mem_append, List.forall_mem_cons]
    exact ⟨stays_ofRun, ⟨rfl, rfl, fun _ => ⟨_, rfl⟩⟩, ih false⟩
  | nested lead name body rest ihbody ihrest =>
    simp only [pieces, List.forall_mem_append, List.forall_mem_cons]
    exact ⟨stays_ofRun, ⟨rfl, rfl, nofun⟩, ihbody false, ⟨rfl, rfl, nofun⟩, ihrest false⟩

lemma head?_closed {name : String} (h : IsFreeName name) (rest : List Char) :
    (closed name.toList ++ rest).head? ≠ some '\x7b' := by
  obtain ⟨c, cs, hname, hne⟩ := h.exists_cons
  rw [hname]
  exact fun heq => hne '\x7b' (by decide) (Option.some.inj heq)

/-- After the first tag of a line that opens a section, the line goes on. -/
lemma lineEnds_source {l : Line} (h : l.WellFormed) (inside : List Char) :
    Piece.lineEnds (l.source ++ (Piece.braces ++ inside)) = false := by
  cases l with
  | text cs => exact lineEnds_append h _
  | value lead name rest =>
    simp only [source, tagged, List.append_assoc]
    exact lineEnds_append h.1 _
  | nested lead name body rest =>
    simp only [source, tagged, List.append_assoc]
    exact lineEnds_append h.1 _

/-- A line in front of a tag, or at the end, is read to its pieces. -/
lemma readAll?_source {l : Line} (h : l.WellFormed) {tail : List Char} (htail : AtTag tail)
    (lineBlank : Bool) (hblank : lineBlank = true → tail = []) (budget : Nat) :
    Piece.readAll? lineBlank (budget + l.size) (l.source ++ tail) =
      (Piece.readAll? false budget tail).map (l.pieces lineBlank ++ ·) := by
  induction l generalizing tail lineBlank budget with
  | text cs => exact readAll?_text h htail hblank budget
  | value lead name rest ih =>
    obtain ⟨hlead, hname, hrest⟩ := h
    have hsource : (value lead name rest).source ++ tail =
        lead ++ (Piece.braces ++ (closed name.toList ++ (rest.source ++ tail))) := by
      simp [source, tagged]
    have halone : (Piece.lineBlankAfter lineBlank lead && Piece.lineEnds (rest.source ++ tail)) =
        (Piece.lineBlankAfter lineBlank lead && Piece.lineEnds rest.source) := by
      cases lineBlank with
      | false => rw [lineBlankAfter_false hlead, Bool.false_and, Bool.false_and]
      | true => rw [hblank rfl, List.append_nil]
    rw [hsource, size, ← Nat.add_assoc, readAll?_tag hlead (read?_value hname _)
      (head?_closed hname.toIsFreeName _), ih hrest htail false nofun, Option.map_map, halone]
    simp [Function.comp_def, pieces]
  | nested lead name body rest ihbody ihrest =>
    obtain ⟨hlead, hname, hbody, hrest⟩ := h
    have hsource : (nested lead name body rest).source ++ tail =
        lead ++ (Piece.braces ++ (closed ('#' :: name.toList) ++ (body.source ++
          ([] ++ (Piece.braces ++ (closed ('/' :: name.toList) ++ (rest.source ++ tail))))))) := by
      simp [source, tagged]
    have hsize : budget + (nested lead name body rest).size =
        budget + rest.size + 1 + body.size + 1 := by
      rw [size]
      omega
    have hclosing : AtTag ([] ++ (Piece.braces ++
        (closed ('/' :: name.toList) ++ (rest.source ++ tail)))) := .inr ⟨_, rfl⟩
    have hfilled : Piece.lineBlankAfter false [] = false := rfl
    rw [hsource, hsize, readAll?_tag hlead (read?_opening hname _) (by simp [closed]),
      ihbody hbody hclosing false nofun,
      readAll?_tag isPlainText_nil (read?_closing hname _) (by simp [closed]),
      ihrest hrest htail false nofun, hfilled]
    simp [Function.comp_def, pieces, Piece.ofRun, lineEnds_source hbody]

lemma size_le (l : Line) : l.size ≤ l.source.length := by
  induction l with
  | text cs => exact Nat.zero_le _
  | value lead name rest ih =>
    simp only [size, source, tagged, closed, List.length_append, List.length_cons]
    omega
  | nested lead name body rest ihbody ihrest =>
    simp only [size, source, tagged, closed, List.length_append, List.length_cons]
    omega

/-- A line is read to its pieces. -/
lemma ofText?_source {l : Line} (h : l.WellFormed) :
    Piece.ofText? l.source = some (l.pieces true) := by
  obtain ⟨budget, hbudget⟩ := Nat.exists_eq_add_of_le' l.size_le
  have hread := readAll?_source h (.inl rfl) true (fun _ => rfl) (budget + 1)
  rw [List.append_nil, Nat.add_right_comm, ← hbudget] at hread
  rw [Piece.ofText?, hread]
  exact congrArg some (List.append_nil _)

/-! ### Forests -/

/-- The nodes of the line. -/
def nodes : Line → List Node
  | .text cs => textNodes cs
  | .value lead name rest => textNodes lead ++ .output (valueOf name) :: rest.nodes
  | .nested lead name body rest =>
    textNodes lead ++ .block (sectionOf name) body.nodes none :: rest.nodes

open Node (Building)

lemma foldlM_ofRun (cs : List Char) (opened : List Node.Opened) (before : List Node) :
    (Piece.ofRun cs).foldlM Building.add ⟨opened, before⟩ =
      .ok ⟨opened, (textNodes cs).reverse ++ before⟩ := by
  cases cs <;> rfl

/-- The pieces of a line add its nodes to those before it. -/
lemma foldlM_pieces (l : Line) (lineBlank : Bool) (opened : List Node.Opened)
    (before : List Node) :
    (l.pieces lineBlank).foldlM Building.add ⟨opened, before⟩ =
      .ok ⟨opened, l.nodes.reverse ++ before⟩ := by
  induction l generalizing lineBlank opened before with
  | text cs => exact foldlM_ofRun cs opened before
  | value lead name rest ih =>
    rw [pieces, List.foldlM_append, foldlM_ofRun]
    change (rest.pieces false).foldlM Building.add
      ⟨opened, .output (valueOf name) :: ((textNodes lead).reverse ++ before)⟩ = _
    rw [ih]
    simp [nodes]
  | nested lead name body rest ihbody ihrest =>
    have hclose (b : List Node) : Building.add
        ⟨⟨.helper, sectionOf name, [], some (sectionOf name), b⟩ :: opened,
          body.nodes.reverse ++ []⟩ (.tag (closingTag name) false) =
        .ok ⟨opened, .block (sectionOf name) body.nodes none :: b⟩ := by
      simp [Building.add, Building.addTag, closingTag, Node.nameOf?, sectionOf, Node.Opened.close,
        Node.blockOf]
    rw [pieces, List.foldlM_append, foldlM_ofRun]
    change (body.pieces false ++ .tag (closingTag name) false :: rest.pieces false).foldlM
      Building.add ⟨⟨.helper, sectionOf name, [], some (sectionOf name),
        (textNodes lead).reverse ++ before⟩ :: opened, []⟩ = _
    rw [List.foldlM_append, ihbody]
    change (Building.add _ _).bind _ = _
    rw [hclose]
    change (rest.pieces false).foldlM Building.add _ = _
    rw [ihrest]
    simp [nodes]

/-- A line is read to its nodes. -/
lemma parse_source {l : Line} (h : l.WellFormed) :
    Node.parse (String.ofList l.source) = .ok l.nodes := by
  rw [Node.parse, String.toList_ofList, ofText?_source h]
  dsimp only
  rw [layOut_of_stays (l.stays_pieces true), Node.ofPieces, Building.empty, foldlM_pieces,
    List.append_nil]
  exact congrArg Except.ok (List.reverse_reverse _)

/-! ### Mentions -/

lemma notMem_of_isPlainText {cs : List Char} (h : IsPlainText cs) : '\x7b' ∉ cs :=
  fun hmem => (h _ hmem).1 rfl

/-- A tag that begins with no brace, no tilde and no sign of an insertion mentions nothing. -/
lemma mentions_tagged {c : Char} {cs : List Char} (hsign : c ∉ ['\x7b', '~', '>'])
    (hbrace : '\x7b' ∉ cs) (rest : List Char) :
    mentions (tagged (c :: cs) ++ rest) = mentions rest := by
  simp only [List.mem_cons, List.not_mem_nil, or_false, not_or] at hsign
  obtain ⟨hc, htilde, hinsertion⟩ := hsign
  have hfirst : mention? ('\x7b' :: '\x7b' :: c :: (closed cs ++ rest)) = none := by
    have hne : ('>' == c) = false := beq_eq_false_iff_ne.mpr (Ne.symm hinsertion)
    simp [mention?, Text.stripLead?, htilde, hne]
  have hsecond : mention? ('\x7b' :: c :: (closed cs ++ rest)) = none := by
    have hne : ('\x7b' == c) = false := beq_eq_false_iff_ne.mpr (Ne.symm hc)
    simp [mention?, Text.stripLead?, hne]
  have hinside : '\x7b' ∉ c :: closed cs := by
    simp [closed, hbrace, Ne.symm hc]
  change (mention? ('\x7b' :: '\x7b' :: c :: (closed cs ++ rest))).toList ++
    ((mention? ('\x7b' :: c :: (closed cs ++ rest))).toList ++
      mentions ((c :: closed cs) ++ rest)) = _
  rw [hfirst, hsecond, mentions_append hinside]
  rfl

lemma notMem_of_isFreeName {name : String} (h : IsFreeName name) : '\x7b' ∉ name.toList :=
  Ident.notMem_of_isPlain h.plain (by decide)

/-- A line mentions no template. -/
lemma mentions_source {l : Line} (h : l.WellFormed) (tail : List Char) :
    mentions (l.source ++ tail) = mentions tail := by
  induction l generalizing tail with
  | text cs => exact mentions_append (notMem_of_isPlainText h) tail
  | value lead name rest ih =>
    obtain ⟨hlead, hname, hrest⟩ := h
    have hnames := notMem_of_isFreeName hname.toIsFreeName
    obtain ⟨c, cs, heq, hne⟩ := hname.exists_cons
    rw [heq] at hnames
    simp only [source, List.append_assoc]
    rw [mentions_append (notMem_of_isPlainText hlead), heq, mentions_tagged, ih hrest]
    · simp [hne '\x7b' (by decide), hne '~' (by decide), hne '>' (by decide)]
    · exact fun hmem => hnames (List.mem_cons_of_mem c hmem)
  | nested lead name body rest ihbody ihrest =>
    obtain ⟨hlead, hname, hbody, hrest⟩ := h
    have hnames := notMem_of_isFreeName hname
    simp only [source, List.append_assoc]
    rw [mentions_append (notMem_of_isPlainText hlead), mentions_tagged (by decide) hnames,
      ihbody hbody, mentions_tagged (by decide) hnames, ihrest hrest]

/-- A line can be registered, in any store. -/
lemma register_source {l : Line} (h : l.WellFormed) (name : String) (s : Store) :
    s.register name (String.ofList l.source) =
      .ok (KeyMap.insert name ⟨l.nodes, []⟩ s) := by
  have hmentions : Store.namesIn (String.ofList l.source) = [] := by
    have hnone := mentions_source h []
    rw [List.append_nil] at hnone
    rw [Store.namesIn, String.toList_ofList, hnone]
    rfl
  rw [Store.register_eq, hmentions, parse_source h]
  rfl

/-- A line is text alone, or it holds the braces of a tag. -/
lemma contains_source (l : Line) :
    (∃ cs, l = .text cs) ∨ Text.contains (String.ofList l.source) "\x7b\x7b" = true := by
  rw [Text.contains]
  cases l with
  | text cs => exact .inl ⟨cs, rfl⟩
  | value lead name rest =>
    refine .inr ?_
    simp only [source, tagged, List.append_assoc, String.toList_ofList]
    exact SqlToken.hasPiece_append Piece.braces lead _
  | nested lead name body rest =>
    refine .inr ?_
    simp only [source, tagged, List.append_assoc, String.toList_ofList]
    exact SqlToken.hasPiece_append Piece.braces lead _

end Line

end QueryLoom.Template

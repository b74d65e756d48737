import QueryLoom.Proofs.Tokens.Literals
import QueryLoom.Template.Piece

/-!
# What readers leave

Each reader of a template takes the beginning of a text and leaves the rest, which is an end of
that text. So what is read stands somewhere in the template.
-/

namespace QueryLoom.Template

variable {α β : Type}

/-! ### Readers -/

/-- If something is found, what follows it is an end of the text. -/
def Leaves (rest : α → List Char) (cs : List Char) (found? : Option α) : Prop :=
  ∀ a ∈ found?, rest a <:+ cs

namespace Leaves

variable {rest : α → List Char} {rest' : β → List Char} {cs cs' : List Char} {found? : Option α}

lemma none : Leaves rest cs none := by
  intro a ha
  cases ha

lemma some {a : α} (h : rest a <:+ cs) : Leaves rest cs (some a) := by
  intro b hb
  obtain rfl := Option.mem_some.mp hb
  exact h

lemma mono (h : Leaves rest cs found?) (hcs : cs <:+ cs') : Leaves rest cs' found? :=
  fun a ha => (h a ha).trans hcs

lemma bind (h : Leaves rest cs found?) {f : α → Option β}
    (hf : ∀ a, rest a <:+ cs → Leaves rest' cs (f a)) : Leaves rest' cs (found?.bind f) := by
  intro b hb
  obtain ⟨a, ha, hb⟩ := Option.bind_eq_some_iff.mp hb
  exact hf a (h a ha) b hb

lemma map (h : Leaves rest cs found?) {f : α → β} (hf : ∀ a, rest' (f a) = rest a) :
    Leaves rest' cs (found?.map f) := by
  intro b hb
  obtain ⟨a, ha, rfl⟩ := Option.map_eq_some_iff.mp hb
  rw [hf]
  exact h a ha

lemma getD {found? : Option (α × List Char)} (h : Leaves Prod.snd cs found?) (a : α) :
    (found?.getD (a, cs)).2 <:+ cs := by
  cases found? with
  | none => exact List.suffix_refl cs
  | some found => exact h found rfl

lemma filter (h : Leaves rest cs found?) (p : α → Bool) : Leaves rest cs (found?.filter p) :=
  fun a ha => h a (Option.mem_filter_iff.mp ha).1

end Leaves

/-! ### Text -/

lemma leaves_stripLead? (lead cs : List Char) : Leaves id cs (Text.stripLead? lead cs) := by
  intro rest h
  rw [SqlToken.eq_append_of_stripLead? h]
  exact List.suffix_append lead rest

lemma leaves_cutAt? (piece cs : List Char) : Leaves Prod.snd cs (Text.cutAt? piece cs) := by
  rintro ⟨text, rest⟩ h
  rw [(SqlToken.cutAt?_spec h).1]
  exact (List.suffix_append piece rest).trans (List.suffix_append text _)

/-! ### References -/

namespace Reference

lemma skipSpace_suffix (cs : List Char) : skipSpace cs <:+ cs := List.dropWhile_suffix _

lemma leaves_readName? (cs : List Char) : Leaves Prod.snd cs (readName? cs) := by
  rw [readName?]
  split_ifs
  · exact .none
  · exact .some (List.drop_suffix _ cs)

lemma leaves_afterSeparator? (cs : List Char) : Leaves id cs (afterSeparator? cs) := by
  cases cs with
  | nil => exact .none
  | cons c cs =>
    rw [afterSeparator?]
    split_ifs
    · exact .some (List.suffix_cons c cs)
    · exact .none

lemma leaves_readItem? (cs : List Char) : Leaves Prod.snd cs (readItem? cs) := by
  rw [readItem?.eq_def]
  split
  · exact (leaves_cutAt? _ _).mono (List.suffix_cons _ _)
  · exact leaves_readName? _

lemma readUps_suffix (budget : Nat) (cs : List Char) : (readUps budget cs).2 <:+ cs := by
  fun_induction readUps budget cs with
  | case1 => exact List.suffix_refl _
  | case2 budget cs rest h steps rest' hups ih =>
    have hrest : rest <:+ cs :=
      (leaves_stripLead? _ cs).bind (fun a ha => (leaves_afterSeparator? a).mono ha) rest h
    rw [hups] at ih
    exact ih.trans hrest
  | case3 => exact List.suffix_refl _

lemma readItems_suffix (budget : Nat) (cs : List Char) : (readItems budget cs).2 <:+ cs := by
  fun_induction readItems budget cs with
  | case1 => exact List.suffix_refl _
  | case2 budget cs name rest h steps rest' hitems ih =>
    have hrest : rest <:+ cs :=
      (leaves_afterSeparator? cs).bind (fun a ha => (leaves_readItem? a).mono ha) (name, rest) h
    rw [hitems] at ih
    exact ih.trans hrest
  | case3 => exact List.suffix_refl _

lemma afterCurrent_suffix (cs : List Char) : afterCurrent cs <:+ cs := by
  rw [afterCurrent]
  split
  · next rest h =>
    exact (leaves_stripLead? _ cs).bind (fun a ha => (leaves_afterSeparator? a).mono ha) rest h
  · cases h : Text.stripLead? "./".toList cs with
    | none => exact List.suffix_refl cs
    | some rest => exact leaves_stripLead? _ cs rest h

/-- A mark after the root, if there is any. -/
lemma marked_suffix (root : List RefStep) {rest cs : List Char} (h : rest <:+ cs) :
    (match rest with
      | '@' :: rest => (root ++ [RefStep.marked], rest)
      | cs => (root, cs)).2 <:+ cs := by
  split
  · exact (List.suffix_cons _ _).trans h
  · exact h

lemma readOrigin_suffix (cs : List Char) : (readOrigin cs).2 <:+ cs := by
  rw [readOrigin]
  cases hroot : (Text.stripLead? "@root".toList cs).bind afterSeparator? with
  | none => exact marked_suffix [] (List.suffix_refl cs)
  | some rest =>
    refine marked_suffix [.root] ?_
    exact (leaves_stripLead? _ cs).bind (fun a ha => (leaves_afterSeparator? a).mono ha) rest hroot

lemma leaves_read? (cs : List Char) : Leaves Prod.snd cs (read? cs) := by
  have horigin : (readOrigin (afterCurrent cs)).2 <:+ cs :=
    (readOrigin_suffix _).trans (afterCurrent_suffix cs)
  have hups := (readUps_suffix (readOrigin (afterCurrent cs)).2.length _).trans horigin
  refine Leaves.bind ((leaves_readItem? _).mono hups) fun found hfound => .some ?_
  exact (readItems_suffix _ _).trans hfound

end Reference

/-! ### Arguments -/

namespace Argument

open Reference (skipSpace skipSpace_suffix leaves_readName?)

lemma leaves_afterString? (quote : Char) (cs : List Char) :
    Leaves id cs (afterString? quote cs) := by
  fun_induction afterString? quote cs with
  | case1 => exact .none
  | case2 a b c d rest h ih =>
    refine ih.mono ?_
    exact List.suffix_append ['\\', 'u', a, b, c, d] rest
  | case3 => exact .none
  | case4 e rest _ h ih => exact ih.mono (List.suffix_append ['\\', e] rest)
  | case5 => exact .none
  | case6 c rest => exact .some (List.suffix_cons _ _)
  | case7 => exact .none
  | case8 c rest _ _ _ _ ih => exact ih.mono (List.suffix_cons _ _)

lemma leaves_afterWord? (word cs : List Char) : Leaves id cs (afterWord? word cs) :=
  (leaves_stripLead? word cs).filter _

lemma dropDigits_suffix (cs : List Char) : cs.dropWhile Text.isAsciiDigit <:+ cs :=
  List.dropWhile_suffix _

lemma afterExponent_suffix (cs : List Char) : afterExponent cs <:+ cs := by
  unfold afterExponent
  split
  · next rest =>
    dsimp only
    split_ifs
    · refine (dropDigits_suffix _).trans (List.IsSuffix.trans ?_ (List.suffix_cons _ rest))
      split
      · exact List.suffix_cons _ _
      · exact List.suffix_refl _
    · exact List.suffix_refl _
  · exact List.suffix_refl _

lemma leaves_afterNumber? (cs : List Char) : Leaves id cs (afterNumber? cs) := by
  unfold afterNumber?
  extract_lets digits rest
  have hdigits : digits <:+ cs := by
    unfold digits
    split
    · exact List.suffix_cons _ _
    · exact List.suffix_refl _
  have hrest : rest <:+ digits := by
    unfold rest
    split
    · next rest' h =>
      have hpoint : '.' :: rest' <:+ digits := h ▸ dropDigits_suffix digits
      exact (dropDigits_suffix rest').trans ((List.suffix_cons _ _).trans hpoint)
    · exact dropDigits_suffix _
  split_ifs
  · exact .none
  · refine Leaves.filter (.some ?_) _
    exact (afterExponent_suffix rest).trans (hrest.trans hdigits)

lemma leaves_afterQuoted? (cs : List Char) : Leaves id cs (afterQuoted? cs) := by
  rw [afterQuoted?.eq_def]
  split
  · exact (leaves_afterString? _ _).mono (List.suffix_cons _ _)
  · exact (leaves_afterString? _ _).mono (List.suffix_cons _ _)
  · exact .none

lemma leaves_words (words : List (List Char)) (cs : List Char) :
    Leaves id cs (words.findSome? fun word => afterWord? word cs) := by
  intro rest h
  obtain ⟨word, -, hword⟩ := List.exists_of_findSome?_eq_some h
  exact leaves_afterWord? word cs rest hword

/-- What stands behind white space and a sign. -/
lemma suffix_of_skipSpace {c : Char} {rest cs : List Char} (h : skipSpace cs = c :: rest) :
    rest <:+ cs :=
  (List.suffix_cons c rest).trans (h ▸ skipSpace_suffix cs)

/-- What follows a literal and its parts, by induction on the budget. -/
lemma leaves_literal (budget : Nat) :
    (∀ cs, Leaves id cs (afterLiteral? budget cs)) ∧
    (∀ cs, Leaves id cs (afterItems? budget cs)) ∧
    (∀ cs, Leaves id cs (afterPair? budget cs)) ∧ ∀ cs, Leaves id cs (afterPairs? budget cs) := by
  induction budget with
  | zero => exact ⟨fun _ => .none, fun _ => .none, fun _ => .none, fun _ => .none⟩
  | succ budget ih =>
    obtain ⟨hliteral, hitems, hpair, hpairs⟩ := ih
    refine ⟨fun cs => ?_, fun cs => ?_, fun cs => ?_, fun cs => ?_⟩
    · rw [afterLiteral?.eq_def]
      dsimp only
      split
      · next rest =>
        refine Leaves.mono ?_ (List.suffix_cons _ rest)
        split
        · next h => exact .some (suffix_of_skipSpace h)
        · next rest' h => exact (hitems _).mono (h ▸ skipSpace_suffix rest)
        · exact ((hliteral _).mono (skipSpace_suffix rest)).bind fun a ha => (hitems a).mono ha
      · next rest =>
        refine Leaves.mono ?_ (List.suffix_cons _ rest)
        split
        · next h => exact .some (suffix_of_skipSpace h)
        · next rest' h => exact (hpairs _).mono (h ▸ skipSpace_suffix rest)
        · exact ((hpair _).mono (skipSpace_suffix rest)).bind fun a ha => (hpairs a).mono ha
      · split
        · next rest h => exact .some (leaves_afterQuoted? _ rest h)
        · split
          · next rest h => exact .some (leaves_afterNumber? _ rest h)
          · exact leaves_words _ _
    · rw [afterItems?]
      split
      · next rest h =>
        exact ((hliteral _).mono ((skipSpace_suffix rest).trans (suffix_of_skipSpace h))).bind
          fun a ha => (hitems a).mono ha
      · next h => exact .some (suffix_of_skipSpace h)
      · exact .none
    · rw [afterPair?]
      split
      · next rest h =>
        obtain ⟨found, hfound, hrest⟩ := Option.map_eq_some_iff.mp h
        exact (hliteral _).mono ((skipSpace_suffix rest).trans
          ((suffix_of_skipSpace hrest).trans (leaves_afterQuoted? cs found hfound)))
      · exact .none
    · rw [afterPairs?]
      split
      · next rest h =>
        exact ((hpair _).mono ((skipSpace_suffix rest).trans (suffix_of_skipSpace h))).bind
          fun a ha => (hpairs a).mono ha
      · next h => exact .some (suffix_of_skipSpace h)
      · exact .none

/-- What follows arguments, by induction on the budget. -/
lemma leaves_argument (budget : Nat) :
    (∀ cs, Leaves Prod.snd cs (read? budget cs)) ∧
    (∀ cs, Leaves Prod.snd cs (readCall? budget cs)) ∧
    (∀ cs, (readAll budget cs).2.2 <:+ cs) ∧
    ∀ cs, Leaves (fun found => found.2.2) cs (readNamed? budget cs) := by
  induction budget with
  | zero => exact ⟨fun _ => .none, fun _ => .none, List.suffix_refl, fun _ => .none⟩
  | succ budget ih =>
    obtain ⟨hread, hcall, hall, hnamed⟩ := ih
    refine ⟨fun cs => ?_, fun cs => ?_, fun cs => ?_, fun cs => ?_⟩
    · rw [read?]
      split_ifs
      · exact .none
      · split
        · next rest h =>
          intro a ha
          obtain ⟨value, -, rfl⟩ := Option.map_eq_some_iff.mp ha
          exact (leaves_literal _).1 cs rest h
        · split
          · next r rest h => exact .some (Reference.leaves_read? cs (r, rest) h)
          · exact hcall cs
    · rw [readCall?.eq_def]
      dsimp only
      split
      · next inside =>
        have hinside : skipSpace inside <:+ '(' :: inside :=
          (skipSpace_suffix inside).trans (List.suffix_cons _ inside)
        split
        · next found h =>
          refine .some ((((leaves_readName? _).mono hinside).bind fun a ha => ?_) found h)
          have hrest := (hall a.2).trans ha
          split_ifs
          · exact .none
          · split
            · next rest h => exact .some ((suffix_of_skipSpace h).trans hrest)
            · exact .none
        · refine ((Reference.leaves_read? _).mono hinside).bind fun a ha => ?_
          split
          · next rest h => exact .some ((suffix_of_skipSpace h).trans ha)
          · exact .none
      · exact .none
    · rw [readAll]
      split
      · next name a rest h =>
        exact (hall rest).trans ((hnamed _ (name, a, rest) h).trans (skipSpace_suffix cs))
      · split
        · next a rest h =>
          exact (hall rest).trans ((hread _ (a, rest) h).trans (skipSpace_suffix cs))
        · exact List.suffix_refl cs
    · rw [readNamed?]
      refine (leaves_readName? cs).bind fun found hfound => ?_
      dsimp only
      split
      · next rest h =>
        refine Leaves.bind ((hread _).mono ((skipSpace_suffix rest).trans
          ((suffix_of_skipSpace h).trans hfound))) fun a ha => .some ha
      · exact .none

end Argument

/-! ### Tags -/

namespace Tag

open Reference (skipSpace skipSpace_suffix readName? leaves_readName?)

lemma readAllArguments_suffix (cs : List Char) :
    (Argument.readAll (cs.length + 1) cs).2.2 <:+ cs :=
  (Argument.leaves_argument _).2.2.1 cs

lemma leaves_readValue? (cs : List Char) : Leaves Prod.snd cs (readValue? cs) := by
  rw [readValue?]
  split
  · exact .none
  · next name rest h =>
    dsimp only
    split_ifs
    · exact .none
    · exact .some ((readAllArguments_suffix rest).trans (leaves_readName? cs (name, rest) h))

lemma leaves_readPlainValue? (cs : List Char) : Leaves Prod.snd cs (readPlainValue? cs) := by
  rw [readPlainValue?]
  split
  · next a rest h => exact .some ((Argument.leaves_argument _).2.1 cs (a, rest) h)
  · exact (Reference.leaves_read? cs).map fun _ => rfl

/-- A second name, if there is any. -/
lemma secondName_suffix (cs : List Char) :
    (match readName? (skipSpace cs) with
      | some (name, rest) => ([String.ofList name], rest)
      | none => ([], cs)).2 <:+ cs := by
  split
  · next name rest h =>
    exact (leaves_readName? _ (name, rest) h).trans (skipSpace_suffix cs)
  · exact List.suffix_refl _

lemma leaves_readBlockNames? (cs : List Char) : Leaves Prod.snd cs (readBlockNames? cs) := by
  refine ((leaves_stripLead? _ _).mono (skipSpace_suffix cs)).bind fun a ha => ?_
  refine ((leaves_stripLead? _ _).mono ((skipSpace_suffix a).trans ha)).bind fun b hb => ?_
  refine ((leaves_readName? _).mono ((skipSpace_suffix b).trans hb)).bind fun first hfirst => ?_
  have hsecond := (secondName_suffix first.2).trans hfirst
  exact ((leaves_stripLead? _ _).mono ((skipSpace_suffix _).trans hsecond)).bind
    fun _ hrest => .some hrest

lemma leaves_readHelper? (cs : List Char) : Leaves Prod.snd cs (readHelper? cs) := by
  refine (leaves_readName? cs).bind fun found hfound => .some ?_
  exact ((leaves_readBlockNames? _).getD []).trans
    ((readAllArguments_suffix found.2).trans hfound)

lemma leaves_readQuotedRest? (cs : List Char) : Leaves Prod.snd cs (readQuotedRest? cs) := by
  fun_induction readQuotedRest? cs with
  | case1 => exact .none
  | case2 rest => exact .some (List.suffix_cons _ rest)
  | case3 rest ih => exact (ih.mono (List.suffix_append ['\\', '\''] rest)).map fun _ => rfl
  | case4 c rest _ _ ih => exact (ih.mono (List.suffix_cons c rest)).map fun _ => rfl

lemma leaves_readTemplateName? (cs : List Char) : Leaves Prod.snd cs (readTemplateName? cs) := by
  rw [readTemplateName?.eq_def]
  split
  · next rest =>
    rw [readQuotedName?]
    split_ifs
    · exact .none
    · exact ((leaves_readQuotedRest? rest).mono (List.suffix_cons _ rest)).map fun _ => rfl
  · dsimp only
    split_ifs
    · exact .none
    · exact .some (List.drop_suffix _ cs)

lemma leaves_readTemplate? (cs : List Char) : Leaves Prod.snd cs (readTemplate? cs) := by
  rw [readTemplate?]
  dsimp only
  split
  · next name rest h =>
    exact .some ((readAllArguments_suffix rest).trans (leaves_readTemplateName? cs (name, rest) h))
  · have htarget : Leaves Prod.snd cs
        ((readPlainValue? cs).map fun found => (found.1.target, found.2)) :=
      (leaves_readPlainValue? cs).map fun _ => rfl
    refine htarget.bind fun found hfound => ?_
    exact .some ((readAllArguments_suffix _).trans hfound)

lemma readTilde_suffix (cs : List Char) : (readTilde cs).2 <:+ cs := by
  rw [readTilde]
  split
  · next rest h => exact (skipSpace_suffix rest).trans (Argument.suffix_of_skipSpace h)
  · exact skipSpace_suffix cs

lemma leaves_close? (braces : String) (omitBefore : Bool) (role : TagRole) (cs : List Char) :
    Leaves Prod.snd cs (close? braces omitBefore role cs) :=
  ((leaves_stripLead? _ _).mono (readTilde_suffix cs)).map fun _ => rfl

/-- A reader and the end of the tag after it. -/
lemma leaves_then_close? {α : Type} {found? : Option (α × List Char)} {cs : List Char}
    (h : Leaves Prod.snd cs found?) (braces : String) (omitBefore : Bool) (role : α → TagRole) :
    Leaves Prod.snd cs (found?.bind fun found =>
      close? braces omitBefore (role found.1) found.2) :=
  h.bind fun found hfound => (leaves_close? braces omitBefore (role found.1) found.2).mono hfound

lemma leaves_readOutput? (omitBefore : Bool) (cs : List Char) :
    Leaves Prod.snd cs (readOutput? omitBefore cs) := by
  rw [readOutput?]
  split
  · next found h =>
    exact .some (leaves_then_close? (leaves_readValue? cs) _ omitBefore .output found h)
  · exact leaves_then_close? (leaves_readPlainValue? cs) _ omitBefore .output

lemma leaves_afterElse? (cs : List Char) : Leaves id cs (afterElse? cs) := by
  rw [afterElse?.eq_def]
  split
  · exact .some (List.suffix_cons _ _)
  · exact leaves_stripLead? _ _

lemma leaves_readAlternative? (omitBefore : Bool) (cs : List Char) :
    Leaves Prod.snd cs (readAlternative? omitBefore cs) := by
  refine (leaves_afterElse? cs).bind fun rest hrest => Leaves.mono ?_ hrest
  split
  · next found h => exact .some (leaves_close? _ _ _ rest found h)
  · exact leaves_then_close? ((leaves_readHelper? _).mono (skipSpace_suffix rest)) _ omitBefore
      fun i => .alternative (some i)

lemma leaves_closeInner? {found? : Option (Invocation × List Char)} {cs : List Char}
    (h : Leaves Prod.snd cs found?) : Leaves Prod.snd cs (closeInner? found?) :=
  h.bind fun found hfound => ((leaves_stripLead? _ _).mono
    ((skipSpace_suffix found.2).trans hfound)).bind fun _ hrest => .some hrest

lemma leaves_readTildeOutside? (omitBefore : Bool) (cs : List Char) :
    Leaves Prod.snd cs (readTildeOutside? omitBefore cs) := by
  refine Leaves.mono ?_ (skipSpace_suffix cs)
  rw [readTildeOutside?]
  dsimp only
  split
  · next found h =>
    have hfound := leaves_closeInner? (leaves_readValue? (skipSpace cs)) found h
    exact (leaves_close? _ omitBefore (.output found.1) found.2).mono hfound
  · exact leaves_then_close? (leaves_closeInner? (leaves_readPlainValue? _)) _ omitBefore .output

lemma leaves_readTildeInside? (cs : List Char) : Leaves Prod.snd cs (readTildeInside? cs) := by
  refine Leaves.mono ?_ (readTilde_suffix cs)
  rw [readTildeInside?]
  generalize readTilde cs = found
  dsimp only
  split
  · next found h =>
    exact .some (leaves_then_close? (leaves_readValue? _) _ _ TagRole.output found h)
  · exact leaves_then_close? (leaves_readPlainValue? _) _ _ TagRole.output

lemma leaves_afterNote? (cs : List Char) : Leaves id cs (afterNote? cs) := by
  rw [afterNote?]
  split
  · next before rest h =>
    have hlong := ((leaves_stripLead? "--".toList _).mono (skipSpace_suffix cs)).bind
      fun a ha => (leaves_cutAt? "--\x7d\x7d".toList a).mono ha
    exact .some (hlong (before, rest) h)
  · exact (leaves_cutAt? _ cs).map fun _ => rfl

lemma leaves_readOpening? (omitBefore : Bool) (cs : List Char) :
    Leaves Prod.snd cs (readOpening? omitBefore cs) := by
  rw [readOpening?.eq_def]
  split
  · next rest =>
    exact (leaves_then_close? ((leaves_readHelper? _).mono (skipSpace_suffix rest)) _ omitBefore
      (.opening .definition)).mono (List.suffix_cons _ rest)
  · next rest =>
    exact (leaves_then_close? ((leaves_readTemplate? _).mono (skipSpace_suffix rest)) _ omitBefore
      (.opening .insertion)).mono (List.suffix_cons _ rest)
  · exact leaves_then_close? (leaves_readHelper? _) _ omitBefore (.opening .helper)

lemma leaves_readMarked? (omitBefore : Bool) (cs : List Char) :
    Leaves Prod.snd cs (readMarked? omitBefore cs) := by
  rw [readMarked?.eq_def]
  split
  case h_1 rest =>
    exact (leaves_readOpening? _ _).mono ((skipSpace_suffix rest).trans (List.suffix_cons _ rest))
  case h_2 rest =>
    exact (leaves_then_close? ((leaves_readTemplateName? _).mono (skipSpace_suffix rest)) _
      omitBefore fun name => .closing false (String.ofList name)).mono (List.suffix_cons _ rest)
  case h_3 rest =>
    exact (leaves_then_close? ((leaves_readTemplate? _).mono (skipSpace_suffix rest)) _ omitBefore
      .insertion).mono (List.suffix_cons _ rest)
  case h_4 rest =>
    exact (leaves_then_close? ((leaves_readPlainValue? _).mono (skipSpace_suffix rest)) _
      omitBefore .output).mono (List.suffix_cons _ rest)
  case h_5 rest =>
    exact (leaves_then_close? ((leaves_readHelper? _).mono (skipSpace_suffix rest)) _
      omitBefore fun _ => .foreignUse).mono (List.suffix_cons _ rest)
  case h_6 rest => exact (leaves_readTildeOutside? _ rest).mono (List.suffix_cons _ rest)
  case h_7 =>
    split
    · next found h => exact .some (leaves_readAlternative? _ _ found h)
    · exact leaves_readOutput? _ _

lemma leaves_read? (cs : List Char) : Leaves Prod.snd cs (read? cs) := by
  rw [read?.eq_def]
  split
  · next rest => exact ((leaves_afterNote? rest).mono (List.suffix_cons _ rest)).map fun _ => rfl
  · dsimp only
    split
    · next found h =>
      exact .some ((leaves_stripLead? _ cs).bind
        (fun a ha => (leaves_readTildeInside? a).mono ha) found h)
    · exact (leaves_readMarked? _ _).mono (readTilde_suffix cs)

lemma leaves_readWideOpening? (cs : List Char) :
    Leaves Prod.snd cs (readWideOpening? cs) :=
  (leaves_then_close? (leaves_readHelper? _) _ _ (.opening .verbatim)).mono (readTilde_suffix cs)

lemma leaves_readWideClosing? (cs : List Char) : Leaves Prod.snd cs (readWideClosing? cs) := by
  refine Leaves.mono ?_ (readTilde_suffix cs)
  refine (leaves_stripLead? _ _).bind fun rest hrest => ?_
  exact leaves_then_close? ((leaves_readName? _).mono ((skipSpace_suffix rest).trans hrest)) _ _
    fun name => .closing true (String.ofList name)

end Tag

/-! ### Pieces -/

namespace Piece

open Reference (skipSpace skipSpace_suffix)

lemma readRun_suffix (stop : List Char) (inRow : Bool) (cs : List Char) :
    (readRun stop inRow cs).2 <:+ cs := by
  fun_induction readRun stop inRow cs with
  | case1 => exact List.suffix_refl _
  | case2 cs run rest hrun ih => exact (hrun ▸ ih).trans (List.suffix_cons _ _)
  | case3 inRow _ cs run rest hrun ih =>
    exact (hrun ▸ ih).trans (List.suffix_append ['\\', '\x7b', '\x7b', '\x7b', '\x7b'] cs)
  | case4 inRow _ cs _ run rest hrun ih =>
    exact (hrun ▸ ih).trans (List.suffix_append ['\\', '\x7b', '\x7b'] cs)
  | case5 inRow c cs _ _ _ ih => exact ih.trans (List.suffix_cons c cs)
  | case6 inRow c cs _ _ _ run rest hrun ih => exact (hrun ▸ ih).trans (List.suffix_cons c cs)
  | case7 => exact List.suffix_refl _
  | case8 inRow c cs _ _ _ run rest hrun ih => exact (hrun ▸ ih).trans (List.suffix_cons c cs)

lemma leaves_readVerbatim? (lineBlank : Bool) (cs : List Char) :
    Leaves Prod.snd cs (readVerbatim? lineBlank cs) := by
  refine (Tag.leaves_readWideOpening? cs).bind fun opened hopened => ?_
  have hrun := (readRun_suffix wideBraces false _).trans
    ((skipSpace_suffix opened.2).trans hopened)
  exact ((((leaves_stripLead? _ _).mono hrun).bind
    fun a ha => (Tag.leaves_readWideClosing? a).mono ha).bind fun _ hclosed => .some hclosed)

lemma leaves_readTag? (lineBlank : Bool) (cs : List Char) :
    Leaves Prod.snd cs (readTag? lineBlank cs) := by
  rw [readTag?]
  split
  · next rest h => exact (leaves_readVerbatim? _ rest).mono (leaves_stripLead? _ cs rest h)
  · refine (leaves_stripLead? _ cs).bind fun rest hrest => ?_
    exact ((Tag.leaves_read? rest).mono hrest).bind fun _ hfound => .some hfound

end Piece

end QueryLoom.Template

import Mathlib.Algebra.Group.Nat.Defs
import Mathlib.Data.Option.Basic
import QueryLoom.Path
import QueryLoom.Proofs.MarkerPass
import QueryLoom.Proofs.Tokens.Grammar
import QueryLoom.Proofs.TrimmedText

/-!
# Spelled paths

The language of paths as rules: segments between single dots, each of which is a key, indices in
brackets, or a key with indices behind it. Reading accepts exactly these texts, up to blanks at the
ends. A path is printed in the plainest of its spellings, and what is read or can be read is read
from that one as well.
-/

namespace QueryLoom

open Markup.Segment (cutAt?_single notMem_of_cutAt?_single eq_of_cutAt?_single)

namespace Decimal

/-! ### Digits -/

lemma valueOfDigits_eq (digits : List Char) :
    valueOfDigits digits = Nat.ofDigitChars 10 digits 0 := by
  simp only [valueOfDigits, Nat.ofDigitChars_eq_foldl, Nat.mul_comm]

lemma isAsciiDigit_of_mem_toString {n : Nat} {c : Char} (h : c ∈ (toString n).toList) :
    Text.isAsciiDigit c = true := by
  have htext : (toString n).toList = Nat.toDigits 10 n := Nat.toList_repr
  rw [htext] at h
  exact Nat.isDigit_of_mem_toDigits (by omega) (by omega) h

lemma notMem_toString {c : Char} (hc : Text.isAsciiDigit c = false) (n : Nat) :
    c ∉ (toString n).toList := by
  intro hmem
  rw [isAsciiDigit_of_mem_toString hmem] at hc
  cases hc

lemma trim_toString (n : Nat) : Text.trim (toString n).toList = (toString n).toList :=
  Text.trim_eq_self fun _ hc =>
    SqlToken.isBlank_of_isAsciiDigit (isAsciiDigit_of_mem_toString hc)

/-- A number that fits is read from its digits. -/
lemma readIndex?_toString {n : Nat} (h : n < 2 ^ 64) : readIndex? (toString n).toList = some n := by
  have htext : (toString n).toList = Nat.toDigits 10 n := Nat.toList_repr
  have hvalue : valueOfDigits (toString n).toList = n := by
    rw [htext, valueOfDigits_eq, Nat.ofDigitChars_ten_toDigits]
  have hall : (toString n).toList.all Text.isAsciiDigit = true :=
    List.all_eq_true.mpr fun _ => isAsciiDigit_of_mem_toString
  have hplus : '+' ∉ (toString n).toList := notMem_toString (by decide) n
  obtain ⟨c, cs, hcs⟩ := List.exists_cons_of_ne_nil (l := (toString n).toList)
    (htext ▸ Nat.toDigits_ne_nil)
  rw [hcs] at hvalue hall hplus ⊢
  unfold readIndex?
  split
  · next rest heq =>
    rw [heq] at hplus
    exact absurd List.mem_cons_self hplus
  · dsimp only
    rw [hall, hvalue]
    exact if_pos h

lemma lt_of_readIndex? {cs : List Char} {n : Nat} (h : readIndex? cs = some n) : n < 2 ^ 64 := by
  unfold readIndex? at h
  dsimp only at h
  split_ifs at h with hdigits hlt
  cases h
  exact hlt

end Decimal

/-! ### Printing -/

namespace PathStep

/-- A step as it is written. In front of a key stands a dot, unless the step is the first. -/
def spelling (first : Bool) : PathStep → List Char
  | .key name => if first then name.toList else '.' :: name.toList
  | .index n => '[' :: ((toString n).toList ++ [']'])

/-- A step that can be told from others: a key has a character, but neither a dot nor an opening
bracket, and an index fits 64 bits. -/
def IsPlain : PathStep → Prop
  | .key name => name ≠ "" ∧ '.' ∉ name.toList ∧ '[' ∉ name.toList
  | .index n => n < 2 ^ 64

/-- A step without blanks at the ends of its key. -/
def IsTrimmed : PathStep → Prop
  | .key name => Text.trimmed name = name
  | .index _ => True

instance : DecidablePred IsPlain
  | .key name => inferInstanceAs (Decidable (name ≠ "" ∧ '.' ∉ name.toList ∧ '[' ∉ name.toList))
  | .index n => inferInstanceAs (Decidable (n < 2 ^ 64))

instance : DecidablePred IsTrimmed
  | .key name => inferInstanceAs (Decidable (Text.trimmed name = name))
  | .index _ => inferInstanceAs (Decidable True)

end PathStep

namespace Path

/-- The text of a path: its steps, one behind the other. -/
def spelling : Path → List Char
  | [] => []
  | s :: path => s.spelling true ++ path.flatMap (PathStep.spelling false)

/-- Print a path. -/
def print (path : Path) : String := String.ofList path.spelling

/-! ### The language -/

/-- Indices in brackets. Blanks inside do not count. -/
inductive Brackets : Path → List Char → Prop where
  | nil : Brackets [] []
  | index {n : Nat} {path : Path} {inside rest : List Char} (hinside : ']' ∉ inside)
      (hn : Decimal.readIndex? (Text.trim inside) = some n) (h : Brackets path rest) :
      Brackets (.index n :: path) ('[' :: (inside ++ ']' :: rest))

/-- What stands between two dots: a key, indices, or a key and indices. -/
inductive Segment : Path → List Char → Prop where
  | key {name cs : List Char} {path : Path} (hne : name ≠ []) (hname : '[' ∉ name)
      (h : Brackets path cs) : Segment (.key (String.ofList name) :: path) (name ++ cs)
  | indices {cs : List Char} {path : Path} (hne : cs ≠ []) (h : Brackets path cs) : Segment path cs

/-- A text is cut into segments at its dots. -/
inductive Spells : Path → List Char → Prop where
  | last {cs : List Char} {path : Path} (hdot : '.' ∉ cs) (h : Segment path cs) : Spells path cs
  | dot {cs rest : List Char} {path more : Path} (hdot : '.' ∉ cs) (h : Segment path cs)
      (hrest : Spells more rest) : Spells (path ++ more) (cs ++ '.' :: rest)

/-! ### Reading -/

lemma brackets_nil_iff {path : Path} : Brackets path [] ↔ path = [] := by
  constructor
  · rintro ⟨⟩
    rfl
  · rintro rfl
    exact .nil

/-- A budget of one for each character is enough. -/
lemma readIndices?_eq_some {budget : Nat} {cs : List Char} {path : Path} (h : cs.length ≤ budget) :
    readIndices? budget cs = some path ↔ Brackets path cs := by
  induction budget generalizing cs path with
  | zero =>
    rw [List.length_eq_zero_iff.mp (Nat.le_zero.mp h), readIndices?, brackets_nil_iff]
    simp [eq_comm]
  | succ budget ih =>
    rcases cs with _ | ⟨c, cs⟩
    · rw [readIndices?, brackets_nil_iff]
      simp [eq_comm]
    by_cases hc : c = '['
    · subst hc
      have hlength {inside rest : List Char} (hcs : cs = inside ++ ']' :: rest) :
          rest.length ≤ budget := by
        rw [hcs] at h
        simp only [List.length_cons, List.length_append] at h
        omega
      constructor
      · intro hread
        rw [readIndices?] at hread
        obtain ⟨⟨inside, rest⟩, hcut, hread⟩ := Option.bind_eq_some_iff.mp hread
        obtain ⟨n, hn, hread⟩ := Option.bind_eq_some_iff.mp hread
        obtain ⟨more, hmore, hpath⟩ := Option.bind_eq_some_iff.mp hread
        cases hpath
        have hcs := eq_of_cutAt?_single hcut
        have hrest := (ih (hlength hcs)).mp hmore
        rw [hcs]
        exact .index (notMem_of_cutAt?_single hcut) hn hrest
      · intro hb
        generalize htext : '[' :: cs = text at hb
        cases hb with
        | nil => cases htext
        | @index n more inside rest hinside hn hrest =>
          cases htext
          have hmore := (ih (hlength rfl)).mpr hrest
          rw [readIndices?, cutAt?_single hinside]
          simp [hn, hmore]
    · constructor
      · intro hread
        simp [readIndices?, hc] at hread
      · intro hb
        cases hb
        exact absurd rfl hc

/-- Nothing, or a text that begins with a bracket. -/
def BeginsIndices (cs : List Char) : Prop := ∀ c ∈ cs.head?, c = '['

lemma Brackets.beginsIndices {path : Path} {cs : List Char} (h : Brackets path cs) :
    BeginsIndices cs := by
  cases h <;> simp [BeginsIndices]

/-- A segment is read as the key in front of the first bracket and the indices behind it. -/
lemma readSegment?_append {name cs : List Char} (hname : '[' ∉ name) (hcs : BeginsIndices cs) :
    readSegment? (name ++ cs) = if name = [] ∧ cs = [] then none else
      (readIndices? cs.length cs).map fun indices =>
        if name = [] then indices else .key (String.ofList name) :: indices := by
  have hall : ∀ c ∈ name, (decide (c ≠ '[')) = true :=
    fun c hc => decide_eq_true fun heq => hname (heq ▸ hc)
  have hspan : cs.takeWhile (· ≠ '[') = [] ∧ cs.dropWhile (· ≠ '[') = cs := by
    cases cs with
    | nil => exact ⟨rfl, rfl⟩
    | cons c cs =>
      have hc : c = '[' := hcs c rfl
      simp [hc]
  have htake : (name ++ cs).takeWhile (· ≠ '[') = name := by
    rw [List.takeWhile_append_of_pos hall, hspan.1, List.append_nil]
  have hdrop : (name ++ cs).dropWhile (· ≠ '[') = cs := by
    rw [List.dropWhile_append_of_pos hall, hspan.2]
  unfold readSegment?
  rw [htake, hdrop]
  cases name <;> cases cs <;> simp [Option.map_eq_bind]

/-- Every text can be cut so. -/
lemma exists_name (cs : List Char) :
    ∃ name rest, cs = name ++ rest ∧ '[' ∉ name ∧ BeginsIndices rest := by
  refine ⟨cs.takeWhile (· ≠ '['), cs.dropWhile (· ≠ '['), List.takeWhile_append_dropWhile.symm,
    fun hmem => ?_, fun c hc => ?_⟩
  · simpa using List.mem_takeWhile_imp hmem
  · have hhead := List.head?_dropWhile_not (· ≠ '[') cs
    rw [Option.mem_def.mp hc] at hhead
    simpa using hhead

lemma readSegment?_eq_some {cs : List Char} {path : Path} :
    readSegment? cs = some path ↔ Segment path cs := by
  constructor
  · intro hread
    obtain ⟨name, rest, rfl, hname, hrest⟩ := exists_name cs
    rw [readSegment?_append hname hrest] at hread
    split_ifs at hread with hempty hne
    · obtain ⟨indices, hindices, rfl⟩ := Option.map_eq_some_iff.mp hread
      subst hne
      exact .indices (fun hrest => hempty ⟨rfl, hrest⟩) ((readIndices?_eq_some le_rfl).mp hindices)
    · obtain ⟨indices, hindices, rfl⟩ := Option.map_eq_some_iff.mp hread
      exact .key hne hname ((readIndices?_eq_some le_rfl).mp hindices)
  · intro h
    cases h with
    | @key name cs path hne hname hb =>
      have hindices := (readIndices?_eq_some le_rfl).mpr hb
      rw [readSegment?_append hname hb.beginsIndices, hindices]
      simp [hne]
    | indices hne hb =>
      have hindices := (readIndices?_eq_some le_rfl).mpr hb
      rw [← List.nil_append cs, readSegment?_append List.not_mem_nil hb.beginsIndices, hindices]
      simp [hne]

/-! ### Dots -/

/-- Read the segments of a text. -/
def readSegments? (cs : List Char) : Option Path :=
  ((cs.splitOn '.').mapM readSegment?).map List.flatten

lemma readSegments?_of_notMem {cs : List Char} (h : '.' ∉ cs) :
    readSegments? cs = readSegment? cs := by
  rw [readSegments?, Text.splitOn_of_notMem h]
  cases hread : readSegment? cs <;> simp [hread]

lemma readSegments?_append {cs : List Char} (h : '.' ∉ cs) (rest : List Char) :
    readSegments? (cs ++ '.' :: rest) =
      (readSegment? cs).bind fun path => (readSegments? rest).map (path ++ ·) := by
  rw [readSegments?, Text.splitOn_append_cons, Text.splitOn_of_notMem h, List.singleton_append,
    List.mapM_cons, readSegments?]
  cases readSegment? cs <;> cases (rest.splitOn '.').mapM readSegment? <;> simp

lemma readSegments?_eq_some {cs : List Char} {path : Path} :
    readSegments? cs = some path ↔ Spells path cs := by
  constructor
  · intro hread
    by_cases hmem : '.' ∈ cs
    · obtain ⟨before, after, hcs, hbefore⟩ := List.eq_append_cons_of_mem hmem
      rw [hcs, readSegments?_append hbefore] at hread
      obtain ⟨first, hfirst, hread⟩ := Option.bind_eq_some_iff.mp hread
      obtain ⟨more, hmore, rfl⟩ := Option.map_eq_some_iff.mp hread
      rw [hcs]
      exact .dot hbefore (readSegment?_eq_some.mp hfirst) (readSegments?_eq_some.mp hmore)
    · rw [readSegments?_of_notMem hmem] at hread
      exact .last hmem (readSegment?_eq_some.mp hread)
  · intro h
    induction h with
    | last hdot h => rw [readSegments?_of_notMem hdot, readSegment?_eq_some.mpr h]
    | dot hdot h hrest ih =>
      rw [readSegments?_append hdot, readSegment?_eq_some.mpr h, ih]
      rfl
termination_by cs.length
decreasing_by
  rw [hcs, List.length_append, List.length_cons]
  omega

/-- Exactly the spelled texts are read, up to blanks at the ends. -/
lemma parse?_eq_some {text : String} {path : Path} :
    parse? text = some path ↔ Spells path (Text.trim text.toList) := by
  rw [← readSegments?_eq_some]
  unfold parse?
  dsimp only
  split
  · next hempty =>
    rw [List.isEmpty_iff.mp hempty]
    simp [readSegments?, readSegment?]
  · rfl

/-! ### What is read can be written -/

lemma Brackets.plain {path : Path} {cs : List Char} (h : Brackets path cs) :
    ∀ s ∈ path, s.IsPlain := by
  induction h with
  | nil => simp
  | index hinside hn h ih =>
    exact List.forall_mem_cons.mpr ⟨Decimal.lt_of_readIndex? hn, ih⟩

lemma Segment.plain {path : Path} {cs : List Char} (h : Segment path cs) (hdot : '.' ∉ cs) :
    ∀ s ∈ path, s.IsPlain := by
  cases h with
  | @key name cs path hne hname hb =>
    refine List.forall_mem_cons.mpr ⟨⟨?_, ?_, ?_⟩, hb.plain⟩
    · simpa [String.ofList_eq_empty_iff] using hne
    · simpa using fun hmem => hdot (List.mem_append_left cs hmem)
    · simpa using hname
  | indices hne hb => exact hb.plain

lemma Spells.plain {path : Path} {cs : List Char} (h : Spells path cs) : ∀ s ∈ path, s.IsPlain := by
  induction h with
  | last hdot h => exact h.plain hdot
  | dot hdot h hrest ih => exact List.forall_mem_append.mpr ⟨h.plain hdot, ih⟩

/-! ### The ends of a text -/

lemma getLast?_append_cons {cs rest : List Char} {c : Char} (hne : rest ≠ []) :
    (cs ++ c :: rest).getLast? = rest.getLast? := by
  rw [List.append_cons, List.getLast?_append_of_ne_nil _ hne]

lemma Brackets.exists_last {path : Path} {cs : List Char} (h : Brackets path cs) (hne : cs ≠ []) :
    ∃ more s, path = more ++ [s] ∧ cs.getLast? = (s.spelling true).getLast? := by
  induction h with
  | nil => exact absurd rfl hne
  | @index n path inside rest hinside hn h ih =>
    rw [← List.cons_append]
    by_cases hrest : rest = []
    · subst hrest
      rw [brackets_nil_iff.mp h]
      refine ⟨[], .index n, rfl, ?_⟩
      rw [PathStep.spelling, ← List.cons_append, List.getLast?_concat, List.getLast?_concat]
    · obtain ⟨more, s, rfl, hlast⟩ := ih hrest
      exact ⟨.index n :: more, s, rfl, by rw [getLast?_append_cons hrest, hlast]⟩

lemma Segment.ne_nil {path : Path} {cs : List Char} (h : Segment path cs) : cs ≠ [] := by
  cases h with
  | key hne => exact List.append_ne_nil_of_left_ne_nil hne _
  | indices hne => exact hne

lemma Spells.ne_nil {path : Path} {cs : List Char} (h : Spells path cs) : cs ≠ [] := by
  cases h with
  | last hdot h => exact h.ne_nil
  | dot hdot h => exact List.append_ne_nil_of_left_ne_nil h.ne_nil _

lemma Segment.exists_first {path : Path} {cs : List Char} (h : Segment path cs) :
    ∃ s more, path = s :: more ∧ cs.head? = (s.spelling true).head? := by
  cases h with
  | @key name cs path hne hname hb =>
    refine ⟨_, _, rfl, ?_⟩
    rw [List.head?_append_of_ne_nil _ hne]
    simp [PathStep.spelling]
  | indices hne hb =>
    cases hb with
    | nil => exact absurd rfl hne
    | index => exact ⟨_, _, rfl, rfl⟩

lemma Segment.exists_last {path : Path} {cs : List Char} (h : Segment path cs) :
    ∃ more s, path = more ++ [s] ∧ cs.getLast? = (s.spelling true).getLast? := by
  cases h with
  | @key name cs path hne hname hb =>
    by_cases hcs : cs = []
    · subst hcs
      rw [brackets_nil_iff.mp hb]
      exact ⟨[], .key (String.ofList name), rfl, by simp [PathStep.spelling]⟩
    · obtain ⟨more, s, rfl, hlast⟩ := hb.exists_last hcs
      refine ⟨.key (String.ofList name) :: more, s, rfl, ?_⟩
      rw [List.getLast?_append_of_ne_nil _ hcs, hlast]
  | indices hne hb => exact hb.exists_last hne

/-- A text begins as its first step is printed. -/
lemma Spells.exists_first {path : Path} {cs : List Char} (h : Spells path cs) :
    ∃ s more, path = s :: more ∧ cs.head? = (s.spelling true).head? := by
  cases h with
  | last hdot h => exact h.exists_first
  | @dot cs rest path more hdot h hrest =>
    obtain ⟨s, steps, rfl, hhead⟩ := h.exists_first
    refine ⟨s, steps ++ more, rfl, ?_⟩
    rw [List.head?_append_of_ne_nil _ h.ne_nil, hhead]

/-- A text ends as its last step is printed. -/
lemma Spells.exists_last {path : Path} {cs : List Char} (h : Spells path cs) :
    ∃ more s, path = more ++ [s] ∧ cs.getLast? = (s.spelling true).getLast? := by
  induction h with
  | last hdot h => exact h.exists_last
  | @dot cs rest path more hdot h hrest ih =>
    obtain ⟨steps, s, rfl, hlast⟩ := ih
    refine ⟨path ++ steps, s, by rw [List.append_assoc], ?_⟩
    rw [getLast?_append_cons hrest.ne_nil, hlast]

/-- A path that is read has a step. -/
lemma parse?_ne_nil {text : String} {path : Path} (h : parse? text = some path) : path ≠ [] := by
  obtain ⟨s, more, hpath, -⟩ := (parse?_eq_some.mp h).exists_first
  exact hpath ▸ List.cons_ne_nil s more

lemma spelling_true_ne_nil {s : PathStep} (h : s.IsPlain) : s.spelling true ≠ [] := by
  cases s with
  | key name => simpa [PathStep.spelling] using h.1
  | index n => exact List.cons_ne_nil _ _

lemma getLast?_spelling_false {s : PathStep} (h : s.IsPlain) (cs : List Char) :
    (cs ++ s.spelling false).getLast? = (s.spelling true).getLast? := by
  have hne := spelling_true_ne_nil h
  cases s with
  | key name => exact getLast?_append_cons hne
  | index n => exact List.getLast?_append_of_ne_nil _ hne

lemma head?_spelling {s : PathStep} (h : s.IsPlain) (path : Path) :
    (spelling (s :: path)).head? = (s.spelling true).head? :=
  List.head?_append_of_ne_nil _ (spelling_true_ne_nil h)

lemma getLast?_spelling {s : PathStep} (h : s.IsPlain) (path : Path) :
    (spelling (path ++ [s])).getLast? = (s.spelling true).getLast? := by
  cases path with
  | nil => rw [List.nil_append, spelling, List.flatMap_nil, List.append_nil]
  | cons first path =>
    rw [List.cons_append, spelling, List.flatMap_append, List.flatMap_singleton,
      ← List.append_assoc, getLast?_spelling_false h]

/-! ### The printed text -/

lemma Brackets.append {path more : Path} {cs rest : List Char} (h : Brackets path cs)
    (hmore : Brackets more rest) : Brackets (path ++ more) (cs ++ rest) := by
  induction h with
  | nil => exact hmore
  | index hinside hn h ih =>
    rw [List.cons_append, List.cons_append, List.append_assoc, List.cons_append]
    exact .index hinside hn ih

lemma Segment.append {path more : Path} {cs rest : List Char} (h : Segment path cs)
    (hmore : Brackets more rest) : Segment (path ++ more) (cs ++ rest) := by
  cases h with
  | key hne hname hb =>
    rw [List.append_assoc]
    exact .key hne hname (hb.append hmore)
  | indices hne hb => exact .indices (List.append_ne_nil_of_left_ne_nil hne _) (hb.append hmore)

lemma brackets_index {n : Nat} (h : n < 2 ^ 64) (first : Bool) :
    Brackets [.index n] (PathStep.spelling first (.index n)) := by
  refine .index (Decimal.notMem_toString (by decide) n) ?_ .nil
  rw [Decimal.trim_toString, Decimal.readIndex?_toString h]

lemma dot_notMem_index (n : Nat) (first : Bool) : '.' ∉ PathStep.spelling first (.index n) := by
  have hdigits : '.' ∉ (toString n).toList := Decimal.notMem_toString (by decide) n
  simpa [PathStep.spelling] using hdigits

lemma segment_first {s : PathStep} (h : s.IsPlain) :
    Segment [s] (s.spelling true) ∧ '.' ∉ s.spelling true := by
  cases s with
  | key name =>
    obtain ⟨hne, hdot, hname⟩ := h
    have hsegment : Segment [.key (String.ofList name.toList)] (name.toList ++ []) :=
      .key (by simpa using hne) hname .nil
    rw [List.append_nil, String.ofList_toList] at hsegment
    exact ⟨hsegment, hdot⟩
  | index n =>
    exact ⟨.indices (List.cons_ne_nil _ _) (brackets_index h true), dot_notMem_index n true⟩

/-- The steps behind a segment either go on with it or begin the next. -/
lemma Segment.spells {path more : Path} {cs : List Char} (h : Segment path cs) (hdot : '.' ∉ cs)
    (hplain : ∀ s ∈ more, s.IsPlain) :
    Spells (path ++ more) (cs ++ more.flatMap (PathStep.spelling false)) := by
  -- The segment is the one that is still open: an index makes it longer, a key closes it.
  induction more generalizing path cs with
  | nil => simpa using Spells.last hdot h
  | cons s more ih =>
    obtain ⟨hs, hmore⟩ := List.forall_mem_cons.mp hplain
    rw [List.flatMap_cons]
    cases s with
    | key name =>
      obtain ⟨hsegment, hname⟩ := segment_first hs
      exact .dot hdot h (ih hsegment hname hmore)
    | index n =>
      have hsegment := h.append (brackets_index hs false)
      have hnone : '.' ∉ cs ++ PathStep.spelling false (.index n) := by
        rw [List.mem_append, not_or]
        exact ⟨hdot, dot_notMem_index n false⟩
      rw [List.append_cons, ← List.append_assoc]
      exact ih hsegment hnone hmore

lemma spells_spelling {path : Path} (hne : path ≠ []) (h : ∀ s ∈ path, s.IsPlain) :
    Spells path path.spelling := by
  obtain ⟨s, more, rfl⟩ := List.exists_cons_of_ne_nil hne
  obtain ⟨hs, hmore⟩ := List.forall_mem_cons.mp h
  obtain ⟨hsegment, hdot⟩ := segment_first hs
  exact hsegment.spells hdot hmore

/-! ### Reading what is printed -/

/-- A path without blanks at the ends of its text is read from it. -/
lemma parse?_print_of_trim {path : Path} (hne : path ≠ []) (h : ∀ s ∈ path, s.IsPlain)
    (hends : Text.trim path.spelling = path.spelling) : parse? path.print = some path := by
  rw [parse?_eq_some, print, String.toList_ofList, hends]
  exact spells_spelling hne h

lemma trim_spelling_true {s : PathStep} (h : s.IsTrimmed) :
    Text.trim (s.spelling true) = s.spelling true := by
  cases s with
  | key name =>
    have hname := congrArg String.toList h
    rwa [Text.trimmed, String.toList_ofList] at hname
  | index n =>
    refine Text.trim_eq_self_iff.mpr ⟨fun c hc => ?_, fun c hc => ?_⟩
    · cases hc
      decide
    · rw [PathStep.spelling, ← List.cons_append, List.getLast?_concat] at hc
      cases hc
      decide

/-- Only the first and the last step decide whether blanks stand at the ends. -/
lemma trim_spelling_iff {path init more : Path} {first last : PathStep}
    (h : ∀ s ∈ path, s.IsPlain) (hfirst : path = first :: more) (hlast : path = init ++ [last]) :
    Text.trim path.spelling = path.spelling ↔
      (∀ c ∈ (first.spelling true).head?, Text.isBlank c = false) ∧
        ∀ c ∈ (last.spelling true).getLast?, Text.isBlank c = false := by
  have hhead : path.spelling.head? = (first.spelling true).head? := by
    subst hfirst
    exact head?_spelling (h first List.mem_cons_self) more
  have hend : path.spelling.getLast? = (last.spelling true).getLast? := by
    subst hlast
    exact getLast?_spelling (h last List.mem_concat_self) init
  rw [Text.trim_eq_self_iff, hhead, hend]

/-- Reading and printing are inverse. A path is read from its printed text, if it has a step and its
keys can be told from other steps and have no blanks at their ends. Of any text that is read, the
keys can be told from other steps, and the printed text is read as the same path. -/
theorem parse?_print :
    (∀ path : Path, path ≠ [] → (∀ s ∈ path, s.IsPlain ∧ s.IsTrimmed) →
      parse? path.print = some path) ∧
    ∀ (text : String) (path : Path), parse? text = some path →
      (∀ s ∈ path, s.IsPlain) ∧ parse? path.print = some path := by
  constructor
  · intro path hne h
    have hplain : ∀ s ∈ path, s.IsPlain := fun s hs => (h s hs).1
    obtain ⟨first, more, hfirst⟩ := List.exists_cons_of_ne_nil hne
    have hlast := (List.dropLast_concat_getLast hne).symm
    have hhead := trim_spelling_true (h first (hfirst ▸ List.mem_cons_self)).2
    have hend := trim_spelling_true (h _ (List.getLast_mem hne)).2
    have hends := (trim_spelling_iff hplain hfirst hlast).mpr
      ⟨(Text.trim_eq_self_iff.mp hhead).1, (Text.trim_eq_self_iff.mp hend).2⟩
    exact parse?_print_of_trim hne hplain hends
  · intro text path hread
    have hspells := parse?_eq_some.mp hread
    have hplain := hspells.plain
    obtain ⟨first, more, hfirst, hhead⟩ := hspells.exists_first
    obtain ⟨init, last, hlast, hend⟩ := hspells.exists_last
    -- What is read was trimmed, and what is printed has the same ends.
    have htrimmed := Text.trim_eq_self_iff.mp (Text.trim_trim text.toList)
    rw [hhead, hend] at htrimmed
    have hends := (trim_spelling_iff hplain hfirst hlast).mpr htrimmed
    exact ⟨hplain, parse?_print_of_trim (parse?_ne_nil hread) hplain hends⟩

/-- The largest index, a closing bracket in a key, and a text with blanks, a sign and a dot that are
not printed. -/
theorem parse?_print_tags :
    parse? "user.a]b c[18446744073709551615]" =
        some [.key "user", .key "a]b c", .index 18446744073709551615] ∧
      parse? " user .tags[ +1 ].[2] " = some [.key "user ", .key "tags", .index 1, .index 2] ∧
      parse? "user .tags[1][2]" = some [.key "user ", .key "tags", .index 1, .index 2] := by
  have hread : parse? " user .tags[ +1 ].[2] "
      = some [.key "user ", .key "tags", .index 1, .index 2] := by decide
  have hprint := parse?_print.1 [.key "user", .key "a]b c", .index 18446744073709551615] (by decide)
    (by decide)
  exact ⟨hprint, hread, (parse?_print.2 _ _ hread).2⟩

end Path

end QueryLoom

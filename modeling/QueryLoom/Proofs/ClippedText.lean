import Mathlib.Data.List.Infix
import QueryLoom.Event

/-!
# Clipped texts

A text that is too long for the log is cut at a byte offset. The search for the offset ends in front
of a whole character, so the text can be cut there, and it passes no such offset, so what is left is
the longest start of the text that fits.
-/

namespace QueryLoom

namespace Text

/-! ### Boundaries -/

/-- A text is cut at the offsets behind its beginnings, and nowhere else. -/
lemma upTo?_eq_some {s t : String} {offset : Nat} :
    upTo? s offset = some t ↔ ∃ rest, s = t ++ rest ∧ offset = t.utf8ByteSize := by
  unfold upTo?
  constructor
  · intro h
    split at h
    · next hvalid =>
      cases h
      have hsplits := (s.pos ⟨offset⟩ hvalid).splits
      exact ⟨_, hsplits.eq_append, congrArg String.Pos.Raw.byteIdx hsplits.offset_eq_rawEndPos⟩
    · cases h
  · rintro ⟨rest, hs, rfl⟩
    have hvalid : String.Pos.Raw.IsValid s ⟨t.utf8ByteSize⟩ :=
      String.Pos.Raw.isValid_iff_exists_append.mpr ⟨t, rest, hs, rfl⟩
    have hsplits : (s.pos ⟨t.utf8ByteSize⟩ hvalid).Splits t rest := ⟨hs, String.offset_pos⟩
    rw [dif_pos hvalid, hsplits.copy_sliceTo_eq]

lemma boundaryBefore_le (s : String) (n : Nat) : boundaryBefore s n ≤ n := by
  induction n with
  | zero => exact le_refl 0
  | succ n ih =>
    rw [boundaryBefore]
    split
    · exact le_refl (n + 1)
    · exact Nat.le_succ_of_le ih

/-- The search passes no boundary. -/
lemma le_boundaryBefore {s : String} {m n : Nat} (hm : String.Pos.Raw.IsValid s ⟨m⟩)
    (hle : m ≤ n) : m ≤ boundaryBefore s n := by
  induction n with
  | zero => exact hle
  | succ n ih =>
    rw [boundaryBefore]
    split
    · exact hle
    · next hn =>
      have hne : m ≠ n + 1 := by
        rintro rfl
        exact hn (String.Pos.Raw.isValid_eq_true_iff.mpr hm)
      exact ih (by omega)

end Text

namespace Event

/-! ### Starts of a text -/

/-- `t` is the longest start of `s` that consists of whole characters and takes at most `limit`
bytes. -/
structure IsLongestStart (limit : Nat) (s t : String) : Prop where
  starts : t.toList <+: s.toList
  fits : t.utf8ByteSize ≤ limit
  longest : ∀ u : String, u.toList <+: s.toList → u.utf8ByteSize ≤ limit → u.toList <+: t.toList

lemma exists_eq_append {s t : String} (h : t.toList <+: s.toList) : ∃ rest, s = t ++ rest := by
  obtain ⟨rest, hrest⟩ := h
  exact ⟨String.ofList rest, String.toList_inj.mp (by simp [hrest])⟩

/-- Of two starts of a text, the one that takes no more bytes is a start of the other. -/
lemma starts_of_utf8ByteSize_le {s t u : String} (ht : t.toList <+: s.toList)
    (hu : u.toList <+: s.toList) (hle : u.utf8ByteSize ≤ t.utf8ByteSize) :
    u.toList <+: t.toList := by
  rcases List.prefix_or_prefix_of_prefix hu ht with h | h
  · exact h
  · obtain ⟨rest, rfl⟩ := exists_eq_append h
    rw [String.utf8ByteSize_append] at hle
    have hrest : rest = "" := String.utf8ByteSize_eq_zero_iff.mp (by omega)
    rw [hrest, String.append_empty]

lemma utf8Size_le_utf8ByteSize {s : String} {c : Char} {cs : List Char} (h : s.toList = c :: cs) :
    c.utf8Size ≤ s.utf8ByteSize := by
  obtain ⟨rest, rfl⟩ := exists_eq_append (s := s) (t := String.singleton c) (by simp [h])
  rw [String.utf8ByteSize_append, String.utf8ByteSize_singleton]
  exact Nat.le_add_right _ _

namespace IsLongestStart

variable {limit : Nat} {s t u : String}

lemma unique (ht : IsLongestStart limit s t) (hu : IsLongestStart limit s u) : t = u := by
  have htu := hu.longest t ht.starts ht.fits
  have hut := ht.longest u hu.starts hu.fits
  exact String.toList_inj.mp (htu.eq_of_length_le hut.length_le)

lemma whole (h : s.utf8ByteSize ≤ limit) : IsLongestStart limit s s :=
  ⟨List.prefix_rfl, h, fun _ hu _ => hu⟩

lemma nothing {c : Char} {cs : List Char} (hs : s.toList = c :: cs) (h : limit < c.utf8Size) :
    IsLongestStart limit s "" := by
  refine ⟨List.nil_prefix, Nat.zero_le limit, fun u hu hle => ?_⟩
  rw [hs] at hu
  rcases List.prefix_cons_iff.mp hu with hu | ⟨rest, hu, -⟩
  · rw [hu]
    exact List.nil_prefix
  · have hsize := utf8Size_le_utf8ByteSize hu
    omega

end IsLongestStart

/-! ### What is left of a text -/

lemma isLongestStart_of_clip? {limit : Nat} {sql t : String} (h : clip? limit sql = some t) :
    IsLongestStart limit sql t := by
  unfold clip? at h
  split at h
  · next hfits =>
    cases h
    exact .whole hfits
  · obtain ⟨rest, hsql, hoffset⟩ := Text.upTo?_eq_some.mp h
    have hstarts : t.toList <+: sql.toList := ⟨rest.toList, by rw [hsql, String.toList_append]⟩
    have hfits := Text.boundaryBefore_le sql limit
    rw [hoffset] at hfits
    refine ⟨hstarts, hfits, fun u hu hle => ?_⟩
    obtain ⟨more, hmore⟩ := exists_eq_append hu
    have hvalid : String.Pos.Raw.IsValid sql ⟨u.utf8ByteSize⟩ :=
      String.Pos.Raw.isValid_iff_exists_append.mpr ⟨u, more, hmore, rfl⟩
    have hpassed := Text.le_boundaryBefore hvalid hle
    rw [hoffset] at hpassed
    exact starts_of_utf8ByteSize_le hstarts hu hpassed

/-- A text can always be clipped. What is left is the longest start of whole characters that takes
at most `limit` bytes: the whole text if it fits, and nothing if its first character does not. -/
theorem clip?_longest_start (limit : Nat) (sql : String) :
    clip? limit sql = some (clipped limit sql) ∧ IsLongestStart limit sql (clipped limit sql) ∧
      (sql.utf8ByteSize ≤ limit → clipped limit sql = sql) ∧
      ∀ c cs, sql.toList = c :: cs → limit < c.utf8Size → clipped limit sql = "" := by
  have hclip : clip? limit sql = some (clipped limit sql) := (Option.some_get _).symm
  have hlongest := isLongestStart_of_clip? hclip
  exact ⟨hclip, hlongest, fun hfits => hlongest.unique (.whole hfits),
    fun c cs hsql hlimit => hlongest.unique (.nothing hsql hlimit)⟩

/-- The three bytes of the second character are two too many. -/
theorem clip?_longest_start_euro : clip? 3 "é€x" = some "é" ∧ IsLongestStart 3 "é€x" "é" ∧
    clipped 6 "é€x" = "é€x" ∧ clipped 1 "é€x" = "" := by
  obtain ⟨hclip, hlongest, -, -⟩ := clip?_longest_start 3 "é€x"
  obtain ⟨-, -, hwhole, -⟩ := clip?_longest_start 6 "é€x"
  obtain ⟨-, -, -, hnothing⟩ := clip?_longest_start 1 "é€x"
  have hcut : clipped 3 "é€x" = "é" := by decide
  rw [hcut] at hclip hlongest
  exact ⟨hclip, hlongest, hwhole (by decide), hnothing 'é' ['€', 'x'] rfl (by decide)⟩

end Event

end QueryLoom

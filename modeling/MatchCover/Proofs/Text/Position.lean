import Mathlib.Data.List.Induction
import Mathlib.Data.Prod.Lex
import Mathlib.Order.Bounds.Defs
import Mathlib.Order.Monotone.Basic
import MatchCover.Proofs.Text.Boundaries
import MatchCover.Text.Position

/-!
# Positions along a text

The position of a byte offset is found by reading the text up to it character by character, where a
line feed starts a new line and any other character moves on by a column
(`positionAt_reads_characters`). So positions grow with the offset, and two places between
characters never share one.
-/

namespace MatchCover.Text

variable {s t u before after : List Char} {c : Char} {offset : Nat}

/-! ## The part of a text within an offset -/

theorem isPrefix_prefixWithin : prefixWithin s offset <+: s := by
  induction s generalizing offset with
  | nil => exact List.prefix_refl _
  | cons c s ih =>
    rw [prefixWithin]
    split
    · exact List.cons_prefix_cons.mpr ⟨rfl, ih⟩
    · exact List.nil_prefix

theorem byteLength_prefixWithin_le : byteLength (prefixWithin s offset) ≤ offset := by
  induction s generalizing offset with
  | nil => exact Nat.zero_le _
  | cons c s ih =>
    rw [prefixWithin]
    split
    · have hrest := @ih (offset - c.utf8Size)
      rw [byteLength]
      omega
    · exact Nat.zero_le _

/-- A beginning of the text that is short enough is within the offset. -/
theorem isPrefix_prefixWithin_of_le (h : t <+: s) (hle : byteLength t ≤ offset) :
    t <+: prefixWithin s offset := by
  induction s generalizing t offset with
  | nil => exact h
  | cons c s ih =>
    cases t with
    | nil => exact List.nil_prefix
    | cons d t =>
      obtain ⟨rfl, ht⟩ := List.cons_prefix_cons.mp h
      rw [byteLength] at hle
      rw [prefixWithin, if_pos (by omega)]
      exact List.cons_prefix_cons.mpr ⟨rfl, ih ht (by omega)⟩

theorem byteLength_le_of_isPrefix (h : t <+: s) : byteLength t ≤ byteLength s := by
  obtain ⟨rest, rfl⟩ := h
  rw [byteLength_append]
  exact Nat.le_add_right _ _

theorem eq_of_isPrefix_of_byteLength_le (h : t <+: s) (hle : byteLength s ≤ byteLength t) :
    t = s := by
  obtain ⟨rest, rfl⟩ := h
  cases rest with
  | nil => rw [List.append_nil]
  | cons c rest =>
    have hc := c.utf8Size_pos
    rw [byteLength_append, byteLength] at hle
    omega

theorem prefixWithin_append : prefixWithin (before ++ after) (byteLength before) = before := by
  have hbefore := isPrefix_prefixWithin_of_le (before.prefix_append after) (Nat.le_refl _)
  exact (eq_of_isPrefix_of_byteLength_le hbefore byteLength_prefixWithin_le).symm

theorem isBoundary_iff_isPrefix :
    isBoundary s offset = true ↔ ∃ t, t <+: s ∧ byteLength t = offset := by
  rw [isBoundary_iff]
  constructor
  · rintro ⟨before, after, rfl, hlen⟩
    exact ⟨before, before.prefix_append after, hlen⟩
  · rintro ⟨t, ⟨after, rfl⟩, hlen⟩
    exact ⟨t, after, rfl, hlen⟩

/-- What is within an offset ends at the last place between characters that is not past it. -/
theorem isGreatest_byteLength_prefixWithin :
    IsGreatest {b | isBoundary s b = true ∧ b ≤ min offset (byteLength s)}
      (byteLength (prefixWithin s offset)) := by
  refine ⟨⟨?_, ?_⟩, ?_⟩
  · exact isBoundary_iff_isPrefix.mpr ⟨_, isPrefix_prefixWithin, rfl⟩
  · exact Nat.le_min.mpr
      ⟨byteLength_prefixWithin_le, byteLength_le_of_isPrefix isPrefix_prefixWithin⟩
  · rintro b ⟨hb, hle⟩
    obtain ⟨t, ht, rfl⟩ := isBoundary_iff_isPrefix.mp hb
    exact byteLength_le_of_isPrefix
      (isPrefix_prefixWithin_of_le ht (hle.trans (Nat.min_le_left _ _)))

/-! ## Positions -/

namespace Position

/-- The position after one more character. -/
def next (p : Position) (c : Char) : Position :=
  if c = '\n' then ⟨p.line + 1, 1⟩ else ⟨p.line, p.column + 1⟩

/-- Line and column, compared in that order. -/
def key (p : Position) : ℕ ×ₗ ℕ := toLex (p.line, p.column)

theorem key_injective : Function.Injective key := by
  rintro ⟨l, c⟩ ⟨l', c'⟩ h
  cases toLex.injective h
  rfl

/-- Positions are ordered by line, and on one line by column. -/
instance : LinearOrder Position := LinearOrder.lift' key key_injective

theorem lt_iff {p q : Position} :
    p < q ↔ p.line < q.line ∨ p.line = q.line ∧ p.column < q.column :=
  Prod.Lex.toLex_lt_toLex

theorem lt_next (p : Position) (c : Char) : p < p.next c := by
  rw [lt_iff, next]
  split
  · exact .inl (Nat.lt_succ_self _)
  · exact .inr ⟨rfl, Nat.lt_succ_self _⟩

end Position

theorem lastLine_concat : lastLine (s ++ [c]) = if c = '\n' then [] else lastLine s ++ [c] := by
  rw [lastLine, List.reverse_append, List.reverse_singleton, List.singleton_append,
    List.takeWhile_cons]
  by_cases h : c = '\n'
  · simp [h]
  · simp [h, lastLine]

theorem after_concat : Position.after (s ++ [c]) = (Position.after s).next c := by
  rw [Position.after, Position.after, Position.next, lastLine_concat, List.count_append]
  by_cases h : c = '\n'
  · simp [h]
  · simp [h]

/-- Reading on moves the position forward. -/
theorem after_lt_after_append (h : u ≠ []) : Position.after s < Position.after (s ++ u) := by
  induction u using List.reverseRecOn with
  | nil => exact absurd rfl h
  | append_singleton u c ih =>
    rw [← List.append_assoc, after_concat]
    refine lt_of_le_of_lt ?_ (Position.lt_next _ c)
    by_cases hu : u = []
    · rw [hu, List.append_nil]
    · exact (ih hu).le

theorem after_le_of_isPrefix (h : t <+: s) : Position.after t ≤ Position.after s := by
  obtain ⟨u, rfl⟩ := h
  by_cases hu : u = []
  · rw [hu, List.append_nil]
  · exact (after_lt_after_append hu).le

theorem length_le_byteLength : s.length ≤ byteLength s := by
  induction s with
  | nil => exact Nat.le_refl _
  | cons c s ih =>
    have hc := c.utf8Size_pos
    rw [List.length_cons, byteLength]
    omega

theorem line_after_le : (Position.after s).line ≤ byteLength s + 1 :=
  Nat.succ_le_succ (List.count_le_length.trans length_le_byteLength)

theorem column_after_le : (Position.after s).column ≤ byteLength s + 1 := by
  have hlast : (lastLine s).length ≤ s.reverse.length := by
    rw [lastLine, List.length_reverse]
    exact (List.takeWhile_sublist _).length_le
  rw [List.length_reverse] at hlast
  exact Nat.succ_le_succ (hlast.trans length_le_byteLength)

/-! ## Positions of offsets -/

theorem positionAt_byteLength :
    positionAt (before ++ after) (byteLength before) = Position.after before := by
  rw [positionAt, prefixWithin_append]

theorem positionAt_next :
    positionAt (before ++ c :: after) (byteLength before + c.utf8Size) =
      (positionAt (before ++ c :: after) (byteLength before)).next c := by
  have hlen : byteLength before + c.utf8Size = byteLength (before ++ [c]) := by
    rw [byteLength_append, byteLength, byteLength, Nat.add_zero]
  rw [positionAt_byteLength, ← after_concat, hlen, List.append_cons, positionAt_byteLength]

theorem positionAt_prefixWithin :
    positionAt s offset = positionAt s (byteLength (prefixWithin s offset)) := by
  obtain ⟨after, hs⟩ : prefixWithin s offset <+: s := isPrefix_prefixWithin
  have hwithin : positionAt (prefixWithin s offset ++ after) (byteLength (prefixWithin s offset)) =
      Position.after (prefixWithin s offset) := positionAt_byteLength
  rw [hs] at hwithin
  rw [hwithin, positionAt]

theorem positionAt_mono : Monotone (positionAt s) := by
  intro o o' hle
  apply after_le_of_isPrefix
  exact isPrefix_prefixWithin_of_le isPrefix_prefixWithin (byteLength_prefixWithin_le.trans hle)

theorem positionAt_strictMonoOn :
    StrictMonoOn (positionAt s) {b | isBoundary s b = true} := by
  intro b hb b' hb' hlt
  obtain ⟨t, ht, rfl⟩ := isBoundary_iff_isPrefix.mp hb
  obtain ⟨t', ⟨after, rfl⟩, rfl⟩ := isBoundary_iff_isPrefix.mp hb'
  -- of the two beginnings of the text, the shorter one is a beginning of the other
  obtain ⟨u, rfl⟩ : t <+: t' := by
    have hwithin := isPrefix_prefixWithin_of_le ht hlt.le
    rwa [prefixWithin_append] at hwithin
  have hu : u ≠ [] := by
    rintro rfl
    rw [List.append_nil] at hlt
    exact Nat.lt_irrefl _ hlt
  rw [positionAt_byteLength, List.append_assoc, positionAt_byteLength]
  exact after_lt_after_append hu

/-- Positions are those of reading the source character by character from line one and column one,
where a line feed starts a new line. An offset that is past the end or inside a character has the
position of the last place between characters before it, and there is always such a place. So a
greater offset has no smaller position, and different places between characters have different
positions. No line or column exceeds the length of the source by more than one. -/
theorem positionAt_reads_characters (source : List Char) :
    positionAt source 0 = ⟨1, 1⟩ ∧
    (∀ before c after, source = before ++ c :: after →
      positionAt source (byteLength before + c.utf8Size) =
        (positionAt source (byteLength before)).next c) ∧
    (∀ offset, ∃ b, IsGreatest
        {b | isBoundary source b = true ∧ b ≤ min offset (byteLength source)} b ∧
      positionAt source offset = positionAt source b ∧
      (positionAt source offset).line ≤ byteLength source + 1 ∧
      (positionAt source offset).column ≤ byteLength source + 1) ∧
    Monotone (positionAt source) ∧
    StrictMonoOn (positionAt source) {b | isBoundary source b = true} ∧
    Set.InjOn (positionAt source) {b | isBoundary source b = true} := by
  have hstart : positionAt ([] ++ source) (byteLength []) = Position.after [] :=
    positionAt_byteLength
  refine ⟨hstart, ?_, fun offset => ?_, positionAt_mono, positionAt_strictMonoOn,
    positionAt_strictMonoOn.injOn⟩
  · rintro before c after rfl
    exact positionAt_next
  · have hlen : byteLength (prefixWithin source offset) ≤ byteLength source :=
      byteLength_le_of_isPrefix isPrefix_prefixWithin
    refine ⟨_, isGreatest_byteLength_prefixWithin, positionAt_prefixWithin, ?_, ?_⟩
    · exact line_after_le.trans (Nat.succ_le_succ hlen)
    · exact column_after_le.trans (Nat.succ_le_succ hlen)

/-- A character of two bytes, a line feed and a last line, with an offset inside the character and
one past the end. -/
theorem positionAt_reads_characters_of_multibyte :
    ∃ source, source = ['é', '\n', 'x'] ∧ positionAt source 0 = ⟨1, 1⟩ ∧
      positionAt source 2 = ⟨1, 2⟩ ∧ positionAt source 3 = ⟨2, 1⟩ ∧
      positionAt source 2 < positionAt source 3 ∧
      (∃ b, IsGreatest {b | isBoundary source b = true ∧ b ≤ min 1 (byteLength source)} b ∧
        positionAt source 1 = positionAt source b) ∧
      positionAt source 1 = ⟨1, 1⟩ ∧ positionAt source 9 = ⟨2, 2⟩ := by
  obtain ⟨hstart, hnext, hsnap, -, hstrict, -⟩ := positionAt_reads_characters ['é', '\n', 'x']
  have htwo : positionAt ['é', '\n', 'x'] 2 = ⟨1, 2⟩ := by
    have h := hnext [] 'é' ['\n', 'x'] rfl
    rwa [show byteLength [] = 0 from rfl, hstart] at h
  have hthree : positionAt ['é', '\n', 'x'] 3 = ⟨2, 1⟩ := by
    have h := hnext ['é'] '\n' ['x'] rfl
    rwa [show byteLength ['é'] = 2 from rfl, htwo] at h
  have hb : isBoundary ['é', '\n', 'x'] 2 = true := rfl
  have hb' : isBoundary ['é', '\n', 'x'] 3 = true := rfl
  obtain ⟨b, hgreatest, heq, -⟩ := hsnap 1
  exact ⟨_, rfl, hstart, htwo, hthree, hstrict hb hb' (by decide), ⟨b, hgreatest, heq⟩, by decide,
    by decide⟩

end MatchCover.Text

import MatchCover.Text.Bytes

/-!
# Places between characters

An offset within a text lies between two characters, or at an end, or else strictly inside a
character (`isBoundary_eq_false_iff`). The places between characters are the lengths of the
beginnings of the text.
-/

namespace MatchCover

namespace Text

variable {s : List Char} {offset : Nat}

theorem isBoundary_iff : isBoundary s offset = true ↔
    ∃ before after, s = before ++ after ∧ byteLength before = offset := by
  simp only [isBoundary, Option.isSome_iff_exists, Prod.exists, splitAt?_eq_some]

/-- The offset lies strictly inside the bytes of a character. -/
def InsideChar (s : List Char) (offset : Nat) : Prop :=
  ∃ before c after, s = before ++ c :: after ∧ byteLength before < offset ∧
    offset < byteLength before + c.utf8Size

theorem isBoundary_cons {c : Char} (h : isBoundary s offset = true) :
    isBoundary (c :: s) (c.utf8Size + offset) = true := by
  obtain ⟨before, after, rfl, rfl⟩ := isBoundary_iff.mp h
  exact isBoundary_iff.mpr ⟨c :: before, after, rfl, rfl⟩

theorem InsideChar.cons {c : Char} (h : InsideChar s offset) :
    InsideChar (c :: s) (c.utf8Size + offset) := by
  obtain ⟨before, d, after, rfl, hlo, hhi⟩ := h
  refine ⟨c :: before, d, after, rfl, ?_, ?_⟩ <;> simp only [byteLength] <;> omega

theorem isBoundary_or_insideChar (h : offset ≤ byteLength s) :
    isBoundary s offset = true ∨ InsideChar s offset := by
  induction s generalizing offset with
  | nil =>
    obtain rfl : offset = 0 := by simpa [byteLength] using h
    exact .inl rfl
  | cons c s ih =>
    rcases Nat.lt_or_ge offset c.utf8Size with hlt | hge
    · rcases Nat.eq_zero_or_pos offset with rfl | hpos
      · exact .inl rfl
      · exact .inr ⟨[], c, s, rfl, hpos, by simpa [byteLength] using hlt⟩
    · obtain ⟨o, rfl⟩ := Nat.exists_eq_add_of_le hge
      have ho : o ≤ byteLength s := by simpa [byteLength] using h
      rcases ih ho with hb | hi
      · exact .inl (isBoundary_cons hb)
      · exact .inr hi.cons

theorem InsideChar.not_isBoundary (h : InsideChar s offset) : ¬ isBoundary s offset = true := by
  rw [isBoundary_iff]
  rintro ⟨before', after', rfl, rfl⟩
  obtain ⟨before, c, after, heq, hlo, hhi⟩ := h
  -- of the two beginnings of the text the one before `c` is the shorter, so the other has `c` in it
  rcases List.append_eq_append_iff.mp heq with ⟨l, rfl, -⟩ | ⟨l, rfl, hl⟩
  · rw [byteLength_append] at hlo
    omega
  · cases l with
    | nil =>
      rw [List.append_nil] at hlo
      omega
    | cons d l =>
      cases hl
      simp only [byteLength_append, byteLength] at hhi
      omega

/-- Within a text, an offset is no boundary exactly if it lies inside a character. -/
theorem isBoundary_eq_false_iff (h : offset ≤ byteLength s) :
    isBoundary s offset = false ↔ InsideChar s offset := by
  rw [← Bool.not_eq_true]
  constructor
  · intro hno
    exact (isBoundary_or_insideChar h).resolve_left hno
  · intro hin
    exact hin.not_isBoundary

end Text

end MatchCover

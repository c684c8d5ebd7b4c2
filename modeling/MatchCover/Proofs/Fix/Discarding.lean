import MatchCover.Proofs.Fix.Places
import MatchCover.Proofs.Text.Deletion

/-!
# Places left in a discard arm

A discard arm has no place left exactly if, in a template with a pattern of both places, all places
belong to such a pattern, and if, in a template without one, no place is cut by places for the
binding, which are deleted (`renderDiscard_leaves_no_place_iff`).
-/

namespace MatchCover.Template

open Text (CutInto occurrences substitute)

variable {p q s w x : List Char} {pieces : List (List Char)}

/-! ## Templates with a pattern -/

theorem pattern_ne_nil : patternPlace ≠ [] := by decide

theorem occurrences_pattern_piece : occurrences patternPlace (x ++ (patternPlace ++ s)) =
    occurrences patternPlace x + (1 + occurrences patternPlace s) :=
  Text.occurrences_piece pattern_ne_nil unbordered_pattern

theorem IsPlace.occurrences_pattern_piece (hp : IsPlace p) :
    occurrences p (x ++ (patternPlace ++ s)) = occurrences p x + (1 + occurrences p s) := by
  have hone : occurrences p patternPlace = 1 := by
    rcases hp with rfl | rfl <;> decide
  rw [hp.occurrences_around braced_pattern, hone]

theorem IsPlace.infix_around_underscore (hp : IsPlace p) :
    p <:+: x ++ '_' :: s ↔ p <:+: x ∨ p <:+: s := by
  refine Text.infix_append_cons_of_notMem ?_ hp.ne_nil
  rcases hp with rfl | rfl <;> decide

theorem IsPlace.occurrences_pattern_le (hp : IsPlace p) :
    occurrences patternPlace s ≤ occurrences p s := by
  induction s using Text.pieces_induction pattern_ne_nil with
  | free s h =>
    rw [(Text.occurrences_eq_zero_iff pattern_ne_nil).mpr h]
    exact Nat.zero_le _
  | step x s hx ih =>
    rw [hp.occurrences_pattern_piece, Template.occurrences_pattern_piece,
      (Text.occurrences_eq_zero_iff pattern_ne_nil).mpr hx]
    omega

/-- The places that are left are those outside of patterns. -/
theorem IsPlace.not_infix_substitute_pattern_iff (hp : IsPlace p) :
    ¬ p <:+: substitute patternPlace ['_'] s ↔
      occurrences p s = occurrences patternPlace s := by
  induction s using Text.pieces_induction pattern_ne_nil with
  | free s h =>
    rw [Text.substitute_of_free h, (Text.occurrences_eq_zero_iff pattern_ne_nil).mpr h,
      Text.occurrences_eq_zero_iff hp.ne_nil]
  | step x s hx ih =>
    have hle : occurrences patternPlace s ≤ occurrences p s := hp.occurrences_pattern_le
    rw [Text.substitute_piece pattern_ne_nil unbordered_pattern, Text.substitute_of_free hx,
      List.singleton_append, hp.infix_around_underscore, not_or, ih,
      ← Text.occurrences_eq_zero_iff hp.ne_nil, hp.occurrences_pattern_piece,
      Template.occurrences_pattern_piece, (Text.occurrences_eq_zero_iff pattern_ne_nil).mpr hx]
    omega

/-! ## Templates without a pattern -/

/-- Some place stands in the text in pieces, with the place for the binding between each two. -/
def CutByBinding (s : List Char) : Prop :=
  ∃ p pieces, IsPlace p ∧ pieces.flatten = p ∧ p ∉ pieces ∧
    bindingPlace.intercalate pieces <:+: s

theorem infix_of_infix_underscored (hw : '_' ∉ w) (hne : w ≠ [])
    (h : w <:+: substitute typePlace ['_'] s) : w <:+: s := by
  induction s using Text.pieces_induction isPlace_type.ne_nil with
  | free s hs => rwa [Text.substitute_of_free hs] at h
  | step x s hx ih =>
    rw [Text.substitute_piece isPlace_type.ne_nil isPlace_type.unbordered,
      Text.substitute_of_free hx, List.singleton_append,
      Text.infix_append_cons_of_notMem hw hne] at h
    rcases h with h | h
    · exact h.trans (List.prefix_append _ _).isInfix
    · rw [← List.append_assoc]
      exact (ih h).trans (List.suffix_append _ _).isInfix

theorem not_type_infix_underscored : ¬ typePlace <:+: substitute typePlace ['_'] s := by
  induction s using Text.pieces_induction isPlace_type.ne_nil with
  | free s hs => rwa [Text.substitute_of_free hs]
  | step x s hx ih =>
    rw [Text.substitute_piece isPlace_type.ne_nil isPlace_type.unbordered,
      Text.substitute_of_free hx, List.singleton_append, isPlace_type.infix_around_underscore]
    exact not_or.mpr ⟨hx, ih⟩

/-- A piece of a place that has a place in it is all of it. -/
theorem IsPlace.eq_of_infix_piece (hp : IsPlace p) (hq : IsPlace pieces.flatten)
    (hx : x ∈ pieces) (h : p <:+: x) : x = pieces.flatten := by
  have hin : x <:+: pieces.flatten := List.infix_of_mem_flatten hx
  have heq : p = pieces.flatten := (hp.infix_iff hq).mp (h.trans hin)
  exact hin.eq_of_length_le (heq ▸ h.length_le)

theorem IsPlace.infix_intercalate (hp : IsPlace p)
    (h : p <:+: bindingPlace.intercalate pieces) : p = bindingPlace ∨ ∃ x ∈ pieces, p <:+: x := by
  induction pieces with
  | nil => exact absurd (List.infix_nil.mp h) hp.ne_nil
  | cons x pieces ih =>
    by_cases hnil : pieces = []
    · subst hnil
      exact .inr ⟨x, List.mem_cons_self, by rwa [List.intercalate_singleton] at h⟩
    · rw [List.intercalate_cons_of_ne_nil hnil, List.append_assoc,
        hp.infix_around isPlace_binding.braced, hp.infix_iff isPlace_binding] at h
      rcases h with h | h | h
      · exact .inr ⟨x, List.mem_cons_self, h⟩
      · exact .inl h
      · rcases ih h with h | ⟨y, hy, h⟩
        · exact .inl h
        · exact .inr ⟨y, List.mem_cons_of_mem _ hy, h⟩

theorem head?_intercalate (h : ∀ c ∈ pieces.flatten.head?, c = '{') :
    ∀ c ∈ (bindingPlace.intercalate pieces).head?, c = '{' := by
  intro c hc
  match pieces with
  | [] => cases hc
  | [x] => exact h c (by simpa using hc)
  | [] :: y :: pieces =>
    rw [List.intercalate_cons_cons] at hc
    cases hc
    rfl
  | (a :: x) :: y :: pieces =>
    rw [List.intercalate_cons_cons] at hc
    exact h c hc

theorem getLast?_intercalate (h : ∀ c ∈ pieces.flatten.getLast?, c = '}') :
    ∀ c ∈ (bindingPlace.intercalate pieces).getLast?, c = '}' := by
  intro c hc
  induction pieces with
  | nil => cases hc
  | cons x pieces ih =>
    by_cases hnil : pieces = []
    · subst hnil
      exact h c (by simpa using hc)
    · rw [List.flatten_cons, List.getLast?_append] at h
      rw [List.intercalate_cons_of_ne_nil hnil, List.getLast?_append, List.getLast?_append] at hc
      rcases Option.or_eq_some_iff.mp hc with hc | ⟨-, hc⟩
      · exact ih (fun d hd => h d (Option.or_eq_some_iff.mpr (.inl hd))) hc
      · cases hc
        rfl

theorem braced_intercalate (h : IsPlace pieces.flatten) :
    Braced (bindingPlace.intercalate pieces) := by
  have hne : bindingPlace.intercalate pieces ≠ [] := by
    intro hnil
    refine h.ne_nil (List.flatten_eq_nil_iff.mpr fun x hx => ?_)
    have hx' : x <:+: bindingPlace.intercalate pieces := Text.infix_intercalate_of_mem hx
    rwa [hnil, List.infix_nil] at hx'
  obtain ⟨a, ha⟩ := Option.ne_none_iff_exists'.mp (mt List.head?_eq_none_iff.mp hne)
  obtain ⟨b, hb⟩ := Option.ne_none_iff_exists'.mp (mt List.getLast?_eq_none_iff.mp hne)
  have hopen : ∀ c ∈ pieces.flatten.head?, c = '{' := by simp [h.braced.1]
  have hclose : ∀ c ∈ pieces.flatten.getLast?, c = '}' := by simp [h.braced.2]
  exact ⟨by rw [ha, head?_intercalate hopen a ha], by rw [hb, getLast?_intercalate hclose b hb]⟩

theorem underscore_notMem_intercalate (h : IsPlace pieces.flatten) :
    '_' ∉ bindingPlace.intercalate pieces := by
  intro hmem
  rcases Text.mem_or_mem_of_mem_intercalate hmem with hmem | hmem
  · exact absurd hmem (by decide)
  · rcases h with h | h <;> exact absurd (h ▸ hmem) (by decide)

/-- The places that are left were cut by places for the binding. -/
theorem exists_infix_delete_iff :
    (∃ p, IsPlace p ∧ p <:+: substitute bindingPlace [] (substitute typePlace ['_'] s)) ↔
      CutByBinding s := by
  constructor
  · rintro ⟨p, hp, h⟩
    obtain ⟨pieces, ⟨-, rfl, hfree⟩, hin⟩ := Text.exists_pieces_of_infix_delete
      isPlace_binding.ne_nil isPlace_binding.unbordered h
    refine ⟨_, pieces, hp, rfl, fun hmem => ?_, ?_⟩
    · -- the whole place is one for the binding, which no piece has, or for the type, which is gone
      rcases hp with heq | heq
      · rw [heq] at hmem
        exact not_type_infix_underscored ((Text.infix_intercalate_of_mem hmem).trans hin)
      · rw [heq] at hmem
        exact hfree _ hmem (List.infix_refl _)
    · exact infix_of_infix_underscored (underscore_notMem_intercalate hp)
        (List.ne_nil_of_mem (List.mem_of_getLast? (braced_intercalate hp).2)) hin
  · rintro ⟨_, pieces, hp, rfl, hnot, y, z, rfl⟩
    have hbraced := braced_intercalate hp
    have hfree {q : List Char} (hq : IsPlace q) : ∀ x ∈ pieces, ¬ q <:+: x := by
      intro x hx hin
      exact hnot (hq.eq_of_infix_piece hp hx hin ▸ hx)
    have htype : ¬ typePlace <:+: bindingPlace.intercalate pieces := by
      intro hin
      rcases isPlace_type.infix_intercalate hin with h | ⟨x, hx, h⟩
      · exact absurd h (by decide)
      · exact hfree isPlace_type x hx h
    have hcut : CutInto bindingPlace pieces.flatten pieces :=
      ⟨fun hnil => hp.ne_nil (by rw [hnil, List.flatten_nil]), rfl, hfree isPlace_binding⟩
    refine ⟨_, hp, substitute bindingPlace [] (substitute typePlace ['_'] y),
      substitute bindingPlace [] (substitute typePlace ['_'] z), ?_⟩
    rw [List.append_assoc, List.append_assoc, isPlace_type.substitute_around hbraced,
      Text.substitute_of_free htype, isPlace_binding.substitute_around hbraced,
      Text.delete_intercalate isPlace_binding.ne_nil isPlace_binding.unbordered hcut]

/-! ## The arm -/

/-- A discard arm has no place left exactly if, in a template that has a pattern, there are as many
places for the type and as many for the binding as there are patterns, or if, in a template without
a pattern, no place is cut by places for the binding. -/
theorem renderDiscard_leaves_no_place_iff (template : List Char) :
    ¬ typePlace <:+: renderDiscard template ∧ ¬ bindingPlace <:+: renderDiscard template ↔
      if patternPlace <:+: template then
        occurrences typePlace template = occurrences patternPlace template ∧
          occurrences bindingPlace template = occurrences patternPlace template
      else ¬ CutByBinding template := by
  by_cases h : patternPlace <:+: template
  · rw [if_pos h, renderDiscard, if_pos (Text.occursIn_iff.mpr h),
      isPlace_type.not_infix_substitute_pattern_iff,
      isPlace_binding.not_infix_substitute_pattern_iff]
  · rw [if_neg h, renderDiscard, if_neg (mt Text.occursIn_iff.mp h), ← exists_infix_delete_iff]
    simp [IsPlace]

/-- A second place for the binding in the body of a template is left as it is, and two halves of a
place are joined when the place between them is deleted. -/
theorem renderDiscard_leaves_places :
    renderDiscard "\x7btype\x7d \x7bbinding\x7d => use(\x7bbinding\x7d)".toList =
        "_ => use(\x7bbinding\x7d)".toList ∧
      bindingPlace <:+: renderDiscard
        "\x7btype\x7d \x7bbinding\x7d => use(\x7bbinding\x7d)".toList ∧
      renderDiscard "\x7bty\x7bbinding\x7dpe\x7d => todo".toList =
        "\x7btype\x7d => todo".toList ∧
      typePlace <:+: renderDiscard "\x7bty\x7bbinding\x7dpe\x7d => todo".toList := by
  decide +kernel

end MatchCover.Template

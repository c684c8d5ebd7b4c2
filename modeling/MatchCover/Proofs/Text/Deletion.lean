import MatchCover.Proofs.Text.Substitution

/-!
# Deleting a pattern

What stands in a text after every occurrence of a pattern is deleted stood there before in pieces,
with the pattern between each two of them (`exists_pieces_of_infix_delete`).
-/

namespace MatchCover.Text

variable {p q s x : List Char} {c : Char} {pieces : List (List Char)}

/-- A text in pieces, none of which has an occurrence of the pattern. -/
structure CutInto (p q : List Char) (pieces : List (List Char)) : Prop where
  ne_nil : pieces ≠ []
  flatten_eq : pieces.flatten = q
  free : ∀ x ∈ pieces, ¬ p <:+: x

theorem cutInto_singleton (h : ¬ p <:+: q) : CutInto p q [q] :=
  ⟨by simp, by simp, by simpa using h⟩

theorem CutInto.cons (hx : ¬ p <:+: x) (h : CutInto p q pieces) :
    CutInto p (x ++ q) (x :: pieces) :=
  ⟨by simp, by rw [List.flatten_cons, h.flatten_eq], List.forall_mem_cons.mpr ⟨hx, h.free⟩⟩

theorem infix_intercalate_of_mem (h : x ∈ pieces) : x <:+: p.intercalate pieces := by
  induction pieces with
  | nil => cases h
  | cons y pieces ih =>
    by_cases hnil : pieces = []
    · subst hnil
      rw [List.mem_singleton.mp h, List.intercalate_singleton]
    · rw [List.intercalate_cons_of_ne_nil hnil]
      rcases List.mem_cons.mp h with rfl | h
      · rw [List.append_assoc]
        exact (List.prefix_append x _).isInfix
      · exact (ih h).trans (List.suffix_append _ _).isInfix

theorem mem_or_mem_of_mem_intercalate (h : c ∈ p.intercalate pieces) :
    c ∈ p ∨ c ∈ pieces.flatten := by
  induction pieces with
  | nil => cases h
  | cons y pieces ih =>
    by_cases hnil : pieces = []
    · subst hnil
      exact .inr (by simpa using h)
    · rw [List.intercalate_cons_of_ne_nil hnil, List.mem_append, List.mem_append] at h
      rw [List.flatten_cons, List.mem_append]
      rcases h with (hy | hc) | hrest
      · exact .inr (.inl hy)
      · exact .inl hc
      · exact (ih hrest).imp_right .inr

/-! ## Before and after -/

theorem delete_intercalate (hp : p ≠ []) (hu : Unbordered p) (h : CutInto p q pieces) :
    substitute p [] (p.intercalate pieces) = q := by
  obtain ⟨-, rfl, hfree⟩ := h
  induction pieces with
  | nil => rfl
  | cons x pieces ih =>
    obtain ⟨hx, hfree⟩ := List.forall_mem_cons.mp hfree
    by_cases hnil : pieces = []
    · subst hnil
      rw [List.intercalate_singleton, substitute_of_free hx]
      simp
    · rw [List.intercalate_cons_of_ne_nil hnil, List.append_assoc, substitute_piece hp hu,
        substitute_of_free hx, ih hfree, List.flatten_cons, List.nil_append]

theorem exists_pieces_of_isPrefix_delete (hp : p ≠ []) (hu : Unbordered p)
    (h : q <+: substitute p [] s) :
    ∃ pieces, CutInto p q pieces ∧ p.intercalate pieces <+: s := by
  induction s using pieces_induction hp generalizing q with
  | free s hs =>
    rw [substitute_of_free hs] at h
    refine ⟨[q], cutInto_singleton fun hin => hs (hin.trans h.isInfix), ?_⟩
    rwa [List.intercalate_singleton]
  | step x s hx ih =>
    rw [substitute_piece hp hu, substitute_of_free hx, List.nil_append] at h
    obtain ⟨rest, heq⟩ := h
    rcases List.append_eq_append_iff.mp heq with ⟨l, rfl, -⟩ | ⟨l, rfl, hs⟩
    · -- the pattern stands behind all of `q`
      have hq : q <+: q ++ l := List.prefix_append q l
      refine ⟨[q], cutInto_singleton fun hin => hx (hin.trans hq.isInfix), ?_⟩
      rw [List.intercalate_singleton]
      exact hq.trans (List.prefix_append _ _)
    · obtain ⟨pieces, hcut, hpre⟩ := ih ⟨rest, hs.symm⟩
      refine ⟨x :: pieces, hcut.cons hx, ?_⟩
      rw [List.intercalate_cons_of_ne_nil hcut.ne_nil, List.append_assoc,
        List.prefix_append_right_inj, List.prefix_append_right_inj]
      exact hpre

theorem exists_pieces_of_infix_delete (hp : p ≠ []) (hu : Unbordered p)
    (h : q <:+: substitute p [] s) :
    ∃ pieces, CutInto p q pieces ∧ p.intercalate pieces <:+: s := by
  induction s using pieces_induction hp with
  | free s hs =>
    rw [substitute_of_free hs] at h
    refine ⟨[q], cutInto_singleton fun hin => hs (hin.trans h), ?_⟩
    rwa [List.intercalate_singleton]
  | step x s hx ih =>
    rw [substitute_piece hp hu, substitute_of_free hx, List.nil_append,
      List.infix_append_iff] at h
    rcases h with hin | hin | ⟨left, right, rfl, ⟨y, rfl⟩, hright⟩
    · refine ⟨[q], cutInto_singleton fun hq => hx (hq.trans hin), ?_⟩
      rw [List.intercalate_singleton]
      exact hin.trans (List.prefix_append _ _).isInfix
    · obtain ⟨pieces, hcut, hs⟩ := ih hin
      refine ⟨pieces, hcut, hs.trans ?_⟩
      rw [← List.append_assoc]
      exact (List.suffix_append _ _).isInfix
    · -- `left` ends the text in front of the pattern, and the pieces of `right` stand behind it
      obtain ⟨pieces, hcut, rest, rfl⟩ := exists_pieces_of_isPrefix_delete hp hu hright
      have hleft : ¬ p <:+: left := fun hin => hx (hin.trans (List.suffix_append y left).isInfix)
      refine ⟨left :: pieces, hcut.cons hleft, y, rest, ?_⟩
      rw [List.intercalate_cons_of_ne_nil hcut.ne_nil]
      simp

end MatchCover.Text

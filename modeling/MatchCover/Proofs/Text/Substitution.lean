import Mathlib.Data.List.Infix
import MatchCover.Text.Substitute

/-!
# Substitution and the seams of a text

Where no occurrence of a pattern lies across the seam of two texts (`Apart`), substituting in their
concatenation is substituting in each of them, and the occurrences in it are theirs. A text is cut
at the occurrences of a pattern by `pieces_induction`. `substituteEach` replaces several patterns in
one pass.
-/

namespace MatchCover.Text

variable {p r s u v w x : List Char} {c : Char} {rules : List (List Char × List Char)}

/-! ## Seams -/

/-- No occurrence of the pattern lies across the seam of two texts. -/
def Apart (p u v : List Char) : Prop :=
  ∀ left right, p = left ++ right → left ≠ [] → right ≠ [] → left <:+ u → ¬ right <+: v

theorem apart_of_head (h : ∀ c ∈ v.head?, c ∉ p.tail) : Apart p u v := by
  rintro (_ | ⟨a, left⟩) (_ | ⟨c, right⟩) rfl hleft hright - ⟨rest, rfl⟩
  · exact hleft rfl
  · exact hleft rfl
  · exact hright rfl
  · exact h c rfl (by simp)

theorem apart_of_last (h : ∀ c ∈ u.getLast?, c ∉ p.dropLast) : Apart p u v := by
  rintro left right rfl hleft hright ⟨rest, rfl⟩ -
  refine h (left.getLast hleft) ?_ ?_
  · rw [Option.mem_def, List.getLast?_append_of_ne_nil _ hleft, List.getLast?_eq_getLast_of_ne_nil]
  · rw [List.dropLast_append_of_ne_nil hright]
    exact List.mem_append_left _ (List.getLast_mem hleft)

theorem Apart.tail (h : Apart p (c :: u) v) : Apart p u v := by
  intro left right hp hleft hright hu
  exact h left right hp hleft hright (hu.trans (List.suffix_cons c u))

/-- No end of the pattern but itself is also a beginning of it, so that occurrences do not overlap. -/
def Unbordered (p : List Char) : Prop :=
  ∀ left right, p = left ++ right → left ≠ [] → right ≠ [] → ¬ right <+: p

theorem Unbordered.apart_right (h : Unbordered p) : Apart p u (p ++ v) := by
  intro left right hp hleft hright _ hpre
  refine h left right hp hleft hright (List.prefix_of_prefix_length_le hpre (p.prefix_append v) ?_)
  rw [hp, List.length_append]
  omega

theorem Unbordered.apart_left (h : Unbordered p) : Apart p (u ++ p) v := by
  intro left right hp hleft hright hsuf _
  have hlen : left.length < p.length := by
    rw [hp, List.length_append]
    have := List.length_pos_iff.mpr hright
    omega
  obtain ⟨rest, hrest⟩ : left <:+ p :=
    List.suffix_of_suffix_length_le hsuf (List.suffix_append u p) hlen.le
  refine h rest left hrest.symm ?_ hleft ⟨right, hp.symm⟩
  rintro rfl
  rw [← hrest] at hlen
  exact Nat.lt_irrefl _ hlen

theorem unbordered_iff : Unbordered p ↔ ∀ t ∈ p.tails, t <+: p → t = [] ∨ t = p := by
  constructor
  · intro h t ht hpre
    obtain ⟨left, rfl⟩ := (List.mem_tails t p).mp ht
    by_contra hno
    obtain ⟨hnil, hself⟩ := not_or.mp hno
    refine h left t rfl ?_ hnil hpre
    rintro rfl
    exact hself rfl
  · rintro h left right rfl hleft hright hpre
    have hmem := (List.mem_tails right (left ++ right)).mpr (List.suffix_append left right)
    rcases h right hmem hpre with hnil | hself
    · exact hright hnil
    · exact hleft (List.self_eq_append_left.mp hself)

instance : Decidable (Unbordered p) := decidable_of_iff' _ unbordered_iff

theorem isPrefix_append_of_apart (h : Apart p u v) (hu : u ≠ []) : p <+: u ++ v ↔ p <+: u := by
  constructor
  · rintro ⟨rest, heq⟩
    rcases List.append_eq_append_iff.mp heq with ⟨l, rfl, -⟩ | ⟨l, hp, hv⟩
    · exact p.prefix_append l
    · cases l with
      | nil => rw [hp, List.append_nil]
      | cons c l =>
        exact absurd ⟨rest, hv.symm⟩ (h u (c :: l) hp hu (by simp) (List.suffix_refl u))
  · intro hp
    exact hp.trans (u.prefix_append v)

theorem infix_append_of_apart (h : Apart p u v) : p <:+: u ++ v ↔ p <:+: u ∨ p <:+: v := by
  rw [List.infix_append_iff]
  constructor
  · rintro (hu | hv | ⟨left, right, hp, hleft, hright⟩)
    · exact .inl hu
    · exact .inr hv
    · by_cases hl : left = []
      · rw [hp, hl, List.nil_append]
        exact .inr hright.isInfix
      · by_cases hr : right = []
        · rw [hp, hr, List.append_nil]
          exact .inl hleft.isInfix
        · exact absurd hright (h left right hp hl hr hleft)
  · rintro (hu | hv)
    · exact .inl hu
    · exact .inr (.inl hv)

/-- A character that the pattern does not have keeps its occurrences to either side. -/
theorem infix_append_cons_of_notMem (hc : c ∉ p) (hp : p ≠ []) :
    p <:+: u ++ c :: v ↔ p <:+: u ∨ p <:+: v := by
  have happart : Apart p u (c :: v) := by
    apply apart_of_head
    rintro _ ⟨rfl⟩ hmem
    exact hc (List.mem_of_mem_tail hmem)
  rw [infix_append_of_apart happart, List.infix_cons_iff, or_iff_right (a := p <+: c :: v)]
  intro hpre
  rcases List.prefix_cons_iff.mp hpre with rfl | ⟨q, rfl, -⟩
  · exact hp rfl
  · exact hc List.mem_cons_self

theorem occursIn_iff : occursIn p s = true ↔ p <:+: s := by
  induction s with
  | nil => simp [occursIn]
  | cons c s ih =>
    rw [occursIn, Bool.or_eq_true, List.isPrefixOf_iff_prefix, ih, List.infix_cons_iff]

/-! ## Cutting a text at a pattern -/

theorem exists_first_occurrence (hp : p ≠ []) (h : p <:+: s) :
    ∃ x rest, s = x ++ (p ++ rest) ∧ ¬ p <:+: x := by
  obtain ⟨x, rest, heq⟩ := h
  induction hn : x.length using Nat.strong_induction_on generalizing x rest with
  | _ n ih =>
    by_cases hx : p <:+: x
    · obtain ⟨y, z, rfl⟩ := hx
      have hlen := List.length_pos_iff.mpr hp
      refine ih y.length ?_ y (z ++ p ++ rest) ?_ rfl
      · rw [← hn, List.length_append, List.length_append]
        omega
      · rw [← heq]
        simp
    · exact ⟨x, rest, by rw [← heq, List.append_assoc], hx⟩

/-- A text either has no occurrence of a pattern or is a text without one, the pattern, and a rest. -/
@[elab_as_elim]
theorem pieces_induction {motive : List Char → Prop} (hp : p ≠ [])
    (free : ∀ s, ¬ p <:+: s → motive s)
    (step : ∀ x s, ¬ p <:+: x → motive s → motive (x ++ (p ++ s))) (s : List Char) : motive s := by
  induction hn : s.length using Nat.strong_induction_on generalizing s with
  | _ n ih =>
    by_cases h : p <:+: s
    · obtain ⟨x, rest, rfl, hx⟩ := exists_first_occurrence hp h
      have hlen := List.length_pos_iff.mpr hp
      refine step x rest hx (ih rest.length ?_ rest rfl)
      rw [← hn, List.length_append, List.length_append]
      omega
    · exact free s h

/-! ## Counting occurrences -/

/-- At how many places of a text the pattern stands. -/
def occurrences (p s : List Char) : Nat := s.tails.countP (p.isPrefixOf ·)

theorem occurrences_nil (hp : p ≠ []) : occurrences p [] = 0 := by
  cases p with
  | nil => exact absurd rfl hp
  | cons c p => rfl

theorem occurrences_cons :
    occurrences p (c :: s) = occurrences p s + if p <+: c :: s then 1 else 0 := by
  simp only [occurrences, List.tails_cons, List.countP_cons, List.isPrefixOf_iff_prefix]

theorem occurrences_append (hp : p ≠ []) (h : Apart p u v) :
    occurrences p (u ++ v) = occurrences p u + occurrences p v := by
  induction u with
  | nil => rw [occurrences_nil hp, List.nil_append, Nat.zero_add]
  | cons c u ih =>
    rw [List.cons_append, occurrences_cons, occurrences_cons, ih h.tail]
    simp only [← List.cons_append, isPrefix_append_of_apart h (List.cons_ne_nil c u)]
    omega

theorem occurrences_eq_zero_iff (hp : p ≠ []) : occurrences p s = 0 ↔ ¬ p <:+: s := by
  induction s with
  | nil => simp [occurrences_nil hp, hp]
  | cons c s ih =>
    rw [occurrences_cons, Nat.add_eq_zero_iff, ih, List.infix_cons_iff]
    split
    · next h => simp [h]
    · next h => simp [h]

theorem occurrences_self (hp : p ≠ []) : occurrences p p = 1 := by
  cases p with
  | nil => exact absurd rfl hp
  | cons c p =>
    have hshort : ¬ (c :: p) <:+: p := fun h => Nat.not_succ_le_self _ h.length_le
    rw [occurrences_cons, if_pos (List.prefix_refl _), (occurrences_eq_zero_iff hp).mpr hshort]

theorem occurrences_piece (hp : p ≠ []) (hu : Unbordered p) :
    occurrences p (x ++ (p ++ s)) = occurrences p x + (1 + occurrences p s) := by
  have happart : Apart p p s := hu.apart_left (u := [])
  rw [occurrences_append hp hu.apart_right, occurrences_append hp happart, occurrences_self hp]

/-! ## Several patterns at once -/

/-- Replaces patterns that are not empty, the first that stands at a place, once `skip` more
characters of an occurrence are passed. -/
def substituteEachFrom (rules : List (List Char × List Char)) : Nat → List Char → List Char
  | _, [] => []
  | skip + 1, _ :: s => substituteEachFrom rules skip s
  | 0, c :: s =>
    match rules.find? (·.1.isPrefixOf (c :: s)) with
    | some (pattern, replacement) =>
      replacement ++ substituteEachFrom rules (pattern.length - 1) s
    | none => c :: substituteEachFrom rules 0 s

/-- One pass over a text that replaces each occurrence of a pattern by the text the rules have for
it and copies all other characters. The inserted text is not searched. -/
def substituteEach (rules : List (List Char × List Char)) (s : List Char) : List Char :=
  substituteEachFrom rules 0 s

theorem substitute_eq_substituteEach : substitute p r s = substituteEach [(p, r)] s := by
  have h (skip : Nat) : substituteFrom p r skip s = substituteEachFrom [(p, r)] skip s := by
    induction s generalizing skip with
    | nil => rw [substituteFrom, substituteEachFrom]
    | cons c s ih =>
      cases skip with
      | succ skip => exact ih skip
      | zero =>
        rw [substituteFrom, substituteEachFrom, List.find?_singleton]
        split <;> simp [ih]
  exact h 0

theorem substituteEachFrom_eq_drop (skip : Nat) :
    substituteEachFrom rules skip s = substituteEach rules (s.drop skip) := by
  induction s generalizing skip with
  | nil => simp [substituteEach, substituteEachFrom]
  | cons c s ih =>
    cases skip with
    | zero => rfl
    | succ skip => exact ih skip

theorem substituteEach_cons_of_none (h : rules.find? (·.1.isPrefixOf (c :: s)) = none) :
    substituteEach rules (c :: s) = c :: substituteEach rules s := by
  rw [substituteEach, substituteEachFrom, h, substituteEach]

theorem substituteEach_pattern (hp : p ≠ [])
    (h : rules.find? (·.1.isPrefixOf (p ++ s)) = some (p, r)) :
    substituteEach rules (p ++ s) = r ++ substituteEach rules s := by
  cases p with
  | nil => exact absurd rfl hp
  | cons c p =>
    rw [List.cons_append] at h
    rw [List.cons_append, substituteEach, substituteEachFrom, h]
    simp [substituteEachFrom_eq_drop]

theorem substituteEach_append (h : ∀ rule ∈ rules, rule.1 ≠ [] ∧ Apart rule.1 u v) :
    substituteEach rules (u ++ v) = substituteEach rules u ++ substituteEach rules v := by
  have hfrom (skip : Nat) (hskip : skip ≤ u.length) :
      substituteEachFrom rules skip (u ++ v) =
        substituteEachFrom rules skip u ++ substituteEach rules v := by
    induction u generalizing skip with
    | nil =>
      rw [List.length_nil, Nat.le_zero] at hskip
      rw [hskip]
      rfl
    | cons c u ih =>
      have hrest : ∀ rule ∈ rules, rule.1 ≠ [] ∧ Apart rule.1 u v :=
        fun rule hrule => ⟨(h rule hrule).1, (h rule hrule).2.tail⟩
      cases skip with
      | succ skip => exact ih hrest skip (Nat.le_of_succ_le_succ hskip)
      | zero =>
        -- the seam does not change which pattern stands at the first place
        have hfind : rules.find? (·.1.isPrefixOf (c :: (u ++ v))) =
            rules.find? (·.1.isPrefixOf (c :: u)) := by
          rw [← List.head?_filter, ← List.head?_filter]
          refine congrArg List.head? (List.filter_congr fun rule hrule => ?_)
          rw [Bool.eq_iff_iff, List.isPrefixOf_iff_prefix, List.isPrefixOf_iff_prefix,
            ← List.cons_append, isPrefix_append_of_apart (h rule hrule).2 (List.cons_ne_nil c u)]
        rw [List.cons_append, substituteEachFrom, substituteEachFrom, hfind]
        cases hrule : rules.find? (·.1.isPrefixOf (c :: u)) with
        | none => simp only [ih hrest 0 (Nat.zero_le _), List.cons_append]
        | some rule =>
          have hpre := List.find?_some hrule
          have hlen := (List.isPrefixOf_iff_prefix.mp hpre).length_le
          rw [List.length_cons] at hlen
          simp only [ih hrest (rule.1.length - 1) (by omega), List.append_assoc]
  exact hfrom 0 (Nat.zero_le _)

theorem substituteEach_of_free (h : ∀ rule ∈ rules, ¬ rule.1 <:+: s) :
    substituteEach rules s = s := by
  induction s with
  | nil => rfl
  | cons c s ih =>
    have hnone : rules.find? (·.1.isPrefixOf (c :: s)) = none := by
      rw [List.find?_eq_none]
      intro rule hrule hpre
      exact h rule hrule (List.isPrefixOf_iff_prefix.mp hpre).isInfix
    rw [substituteEach_cons_of_none hnone,
      ih fun rule hrule hin => h rule hrule (List.infix_cons hin)]

/-- A pattern that does not occur can be left out. -/
theorem substituteEach_concat_of_free (h : ¬ p <:+: s) :
    substituteEach (rules ++ [(p, r)]) s = substituteEach rules s := by
  have hfrom (skip : Nat) :
      substituteEachFrom (rules ++ [(p, r)]) skip s = substituteEachFrom rules skip s := by
    induction s generalizing skip with
    | nil => rw [substituteEachFrom, substituteEachFrom]
    | cons c s ih =>
      have hrest : ¬ p <:+: s := fun hin => h (List.infix_cons hin)
      cases skip with
      | succ skip => exact ih hrest skip
      | zero =>
        have hpre : p.isPrefixOf (c :: s) = false := by
          rw [← Bool.not_eq_true, List.isPrefixOf_iff_prefix]
          exact fun hpre => h hpre.isInfix
        have hfind : (rules ++ [(p, r)]).find? (·.1.isPrefixOf (c :: s)) =
            rules.find? (·.1.isPrefixOf (c :: s)) := by
          rw [List.find?_append, List.find?_singleton, hpre]
          exact Option.or_none
        simp only [substituteEachFrom, hfind, ih hrest]
  exact hfrom 0

/-! ## One pattern -/

theorem substitute_append (hp : p ≠ []) (h : Apart p u v) :
    substitute p r (u ++ v) = substitute p r u ++ substitute p r v := by
  simp only [substitute_eq_substituteEach]
  exact substituteEach_append (by simpa using ⟨hp, h⟩)

theorem substitute_pattern (hp : p ≠ []) : substitute p r (p ++ s) = r ++ substitute p r s := by
  simp only [substitute_eq_substituteEach]
  refine substituteEach_pattern hp ?_
  rw [List.find?_singleton, if_pos (List.isPrefixOf_iff_prefix.mpr (p.prefix_append s))]

theorem substitute_of_free (h : ¬ p <:+: s) : substitute p r s = s := by
  rw [substitute_eq_substituteEach]
  exact substituteEach_of_free (by simpa using h)

theorem substitute_piece (hp : p ≠ []) (hu : Unbordered p) :
    substitute p r (x ++ (p ++ s)) = substitute p r x ++ (r ++ substitute p r s) := by
  rw [substitute_append hp hu.apart_right, substitute_pattern hp]

theorem substitute_self (hp : p ≠ []) (hu : Unbordered p) : substitute p p s = s := by
  induction s using pieces_induction hp with
  | free s h => exact substitute_of_free h
  | step x s hx ih => rw [substitute_piece hp hu, substitute_of_free hx, ih]

/-- Each replaced occurrence changes the length by the same amount. -/
theorem length_substitute (hp : p ≠ []) (hu : Unbordered p) :
    (substitute p r s).length + p.length * occurrences p s =
      s.length + r.length * occurrences p s := by
  induction s using pieces_induction hp with
  | free s h => simp [substitute_of_free h, (occurrences_eq_zero_iff hp).mpr h]
  | step x s hx ih =>
    rw [substitute_piece hp hu, substitute_of_free hx, occurrences_piece hp hu,
      (occurrences_eq_zero_iff hp).mpr hx, Nat.zero_add, Nat.mul_add, Nat.mul_add]
    simp only [List.length_append]
    omega

/-- A text of the same length that changes nothing is the pattern or has nothing to replace. -/
theorem not_infix_of_substitute_eq_self (hp : p ≠ []) (hu : Unbordered p)
    (hlen : r.length = p.length) (hne : r ≠ p) (h : substitute p r s = s) : ¬ p <:+: s := by
  intro hin
  obtain ⟨x, rest, rfl, hx⟩ := exists_first_occurrence hp hin
  rw [substitute_piece hp hu, substitute_of_free hx] at h
  exact hne (List.append_inj (List.append_cancel_left h) hlen).1

end MatchCover.Text

import Mathlib.Data.Nat.Nth
import MatchCover.Proofs.Coverage.Choice

/-!
# Removal of arms

Taking out arms that are reported as unreachable changes nothing else: neither the verdict, nor the
notes on literals, nor the reports on the arms that stay, nor which arm comes first. `Pruned` goes
through the arms once and says of each one whether it stays; a removed arm is shadowed by the arms
before it. That the kept arms cover the same keys (`Pruned.sameCover`) is the invariant which the
other facts rest on.
-/

namespace MatchCover.Coverage

variable {α κ π : Type}

/-- A list without the elements of the given numbers. -/
def without (removed : List Nat) (l : List α) : List α :=
  (l.zipIdx.filter fun p => p.2 ∉ removed).map Prod.fst

/-- The number that element `i` of a list gets when those of the numbers `removed` are taken out:
how many stay before it. -/
def renumbered (removed : List Nat) (i : Nat) : Nat := Nat.count (· ∉ removed) i

/-- The interpretation that reads each arm that stays, under its new number, as before. -/
noncomputable def Interpretation.without (I : Interpretation κ π) (removed : List Nat) :
    Interpretation κ π where
  payload i := I.payload (Nat.nth (· ∉ removed) i)
  unknown i := I.unknown (Nat.nth (· ∉ removed) i)

section
variable {removed : List Nat} {l : List α} {a : α} {i j : Nat}

theorem getElem?_concat_of_ne (h : i ≠ l.length) : (l ++ [a])[i]? = l[i]? := by
  rcases Nat.lt_or_gt_of_ne h with h | h
  · exact List.getElem?_append_left h
  · have hlen : (l ++ [a]).length ≤ i := by
      rw [List.length_append, List.length_singleton]
      omega
    rw [List.getElem?_eq_none h.le, List.getElem?_eq_none hlen]

theorem without_concat :
    without removed (l ++ [a]) = without removed l ++ if l.length ∈ removed then [] else [a] := by
  unfold without
  rw [List.zipIdx_append, List.filter_append, List.map_append, Nat.zero_add]
  by_cases h : l.length ∈ removed
  · simp [h]
  · simp [h]

theorem renumbered_succ :
    renumbered removed (i + 1) = renumbered removed i + if i ∈ removed then 0 else 1 := by
  unfold renumbered
  rw [Nat.count_succ]
  by_cases h : i ∈ removed
  · simp [h]
  · simp [h]

theorem renumbered_injective (hi : i ∉ removed) (hj : j ∉ removed)
    (h : renumbered removed i = renumbered removed j) : i = j :=
  Nat.count_injective (p := (· ∉ removed)) hi hj h

/-- An arm that stays matches under its new number what it matched under the old one. -/
theorem matches_without {key : α → κ} {I : Interpretation κ π} {arm : Arm α} {x : κ × π}
    (h : i ∉ removed) :
    arm.Matches key (I.without removed) (renumbered removed i) x ↔ arm.Matches key I i x := by
  have hnth : Nat.nth (· ∉ removed) (renumbered removed i) = i :=
    Nat.nth_count (p := (· ∉ removed)) h
  rcases arm with _ | (_ | t) | (_ | t) <;> simp only [Arm.Matches, Interpretation.without, hnth]

end

/-! ## Going through the arms -/

/-- `kept` is left of the arms when those of the numbers `removed` are taken out, and each of these
is shadowed. -/
inductive Pruned (key : α → κ) (removed : List Nat) : (arms kept : List (Arm α)) → Prop where
  | nil : Pruned key removed [] []
  | drop {arms kept : List (Arm α)} {arm : Arm α} (h : Pruned key removed arms kept)
      (hr : arms.length ∈ removed) (hs : Shadowed key arms arm) :
      Pruned key removed (arms ++ [arm]) kept
  | keep {arms kept : List (Arm α)} (arm : Arm α) (h : Pruned key removed arms kept)
      (hr : arms.length ∉ removed) : Pruned key removed (arms ++ [arm]) (kept ++ [arm])

section
variable {key : α → κ} {removed : List Nat} {arms kept : List (Arm α)}

theorem pruned_without
    (h : ∀ i ∈ removed, ∀ arm, arms[i]? = some arm → Shadowed key (arms.take i) arm) :
    Pruned key removed arms (without removed arms) := by
  induction arms using List.reverseRecOn with
  | nil => exact .nil
  | append_singleton arms arm ih =>
    have hprefix : Pruned key removed arms (without removed arms) := by
      refine ih fun i hi a ha => ?_
      have hlt : i < arms.length := (List.getElem?_eq_some_iff.mp ha).1
      have hs := h i hi a (by rw [List.getElem?_append_left hlt, ha])
      rwa [List.take_append_of_le_length hlt.le] at hs
    rw [without_concat]
    split
    · next hr =>
      have hs := h _ hr arm List.getElem?_concat_length
      rw [List.take_left] at hs
      rw [List.append_nil]
      exact hprefix.drop hr hs
    · next hr => exact hprefix.keep arm hr

namespace Pruned

theorem length_eq (h : Pruned key removed arms kept) :
    kept.length = renumbered removed arms.length := by
  induction h with
  | nil => rfl
  | drop h hr hs ih =>
    rw [List.length_append, List.length_singleton, renumbered_succ, if_pos hr, ih, Nat.add_zero]
  | keep arm h hr ih =>
    rw [List.length_append, List.length_append, List.length_singleton, renumbered_succ, if_neg hr,
      ih]

/-- An arm that stays is found under its new number. -/
theorem getElem?_renumbered (h : Pruned key removed arms kept) {i : Nat} (hi : i ∉ removed) :
    kept[renumbered removed i]? = arms[i]? := by
  induction h with
  | nil => rfl
  | drop h hr hs ih =>
    rw [ih, getElem?_concat_of_ne]
    rintro rfl
    exact hi hr
  | @keep arms kept arm h hr ih =>
    by_cases heq : i = arms.length
    · subst heq
      rw [← h.length_eq, List.getElem?_concat_length, List.getElem?_concat_length]
    · have hne : renumbered removed i ≠ kept.length := fun hlen =>
        heq (renumbered_injective hi hr (hlen.trans h.length_eq))
      rw [getElem?_concat_of_ne heq, getElem?_concat_of_ne hne, ih]

theorem sameCover (h : Pruned key removed arms kept) : SameCover key arms kept := by
  induction h with
  | nil => exact .refl
  | drop h hr hs ih => exact (SameCover.concat_of_shadowed hs).trans ih
  | keep arm h hr ih => exact ih.append [arm]

/-- Literals of a key that is not covered all stay. -/
theorem mem_literalKeys_iff (h : Pruned key removed arms kept) {k : κ}
    (hk : ¬ Covers key arms k) : k ∈ literalKeys key arms ↔ k ∈ literalKeys key kept := by
  induction h with
  | nil => exact Iff.rfl
  | drop h hr hs ih =>
    rw [covers_append, not_or] at hk
    rw [literalKeys_append, List.mem_append, ih hk.1]
    -- a shadowed literal is of a covered key
    refine or_iff_left fun hl => hk.1 ?_
    obtain ⟨t, rfl, rfl⟩ := mem_literalKeys_singleton.mp hl
    exact (shadowed_of_type?_eq_some rfl).mp hs
  | keep arm h hr ih =>
    rw [covers_append, not_or] at hk
    rw [literalKeys_append, literalKeys_append, List.mem_append, List.mem_append, ih hk.1]

theorem matched_iff (h : Pruned key removed arms kept) (I : Interpretation κ π) (x : κ × π) :
    Matched key I arms x ↔ Matched key (I.without removed) kept x := by
  induction h with
  | nil => simp [Matched]
  | drop h hr hs ih =>
    rw [matched_concat, ← ih]
    exact or_iff_left_of_imp (matched_of_shadowed hs)
  | keep arm h hr ih =>
    rw [matched_concat, matched_concat, ih, h.length_eq, matches_without hr]

theorem comesFirst_iff (h : Pruned key removed arms kept) (I : Interpretation κ π) (x : κ × π)
    (i : Nat) :
    ComesFirst key I arms i x ↔
      i ∉ removed ∧ ComesFirst key (I.without removed) kept (renumbered removed i) x := by
  induction h with
  | nil => simp [ComesFirst]
  | drop h hr hs ih =>
    rw [comesFirst_concat, ← ih]
    refine or_iff_left ?_
    rintro ⟨-, hm, hnot⟩
    exact hnot (matched_of_shadowed hs hm)
  | keep arm h hr ih =>
    rw [comesFirst_concat, comesFirst_concat, ih, and_or_left, ← h.matched_iff, h.length_eq]
    -- what is left to compare is the new arm itself, which its new number tells from the others
    refine or_congr_right ?_
    constructor
    · rintro ⟨rfl, hm, hnot⟩
      exact ⟨hr, rfl, (matches_without hr).mpr hm, hnot⟩
    · rintro ⟨hi, heq, hm, hnot⟩
      exact ⟨renumbered_injective hi hr heq, (matches_without hi).mp hm, hnot⟩

variable [DecidableEq κ]

theorem unreachableArms_eq (h : Pruned key removed arms kept) :
    unreachableArms key kept =
      ((unreachableArms key arms).filter (· ∉ removed)).map (renumbered removed) := by
  induction h with
  | nil => rfl
  | drop h hr hs ih =>
    rw [unreachableArms_concat, if_pos hs, ih, List.filter_append, List.filter_singleton]
    simp [hr]
  | @keep arms kept arm h hr ih =>
    rw [unreachableArms_concat, unreachableArms_concat, ih, List.filter_append, List.map_append,
      h.length_eq]
    congr 1
    by_cases hs : Shadowed key arms arm
    · rw [if_pos (h.sameCover.shadowed_iff.mp hs), if_pos hs]
      simp [hr]
    · rw [if_neg (mt h.sameCover.shadowed_iff.mpr hs), if_neg hs]
      rfl

end Pruned

variable [DecidableEq κ]

theorem pruned_of_subset (h : removed ⊆ unreachableArms key arms) :
    Pruned key removed arms (without removed arms) :=
  pruned_without fun _ hi _ ha => (mem_unreachableArms ha).mp (h hi)

end

/-! ## Removing reported arms -/

/-- Taking out any of the reported arms changes neither the verdict nor the notes on literals. Of
the others the same ones are reported, under their new numbers, and however the arms are
interpreted the arm that comes first is the same one. Without all of them nothing is reported. -/
theorem without_unreachable_is_safe [DecidableEq κ] (π : Type) (key : α → κ) (variants : List α)
    (arms : List (Arm α)) (removed : List Nat) (h : removed ⊆ unreachableArms key arms) :
    check key variants (without removed arms) = check key variants arms ∧
    literalOnly key variants (without removed arms) = literalOnly key variants arms ∧
    unreachableArms key (without removed arms) =
      ((unreachableArms key arms).filter (· ∉ removed)).map (renumbered removed) ∧
    (∀ i ∉ removed, (without removed arms)[renumbered removed i]? = arms[i]?) ∧
    (∀ (I : Interpretation κ π) (x : κ × π) (i : Nat), ComesFirst key I arms i x ↔
      i ∉ removed ∧
        ComesFirst key (I.without removed) (without removed arms) (renumbered removed i) x) ∧
    unreachableArms key (without (unreachableArms key arms) arms) = [] := by
  have hp := pruned_of_subset h
  have hcovers : ∀ k, Covers key (without removed arms) k ↔ Covers key arms k := fun k =>
    (hp.sameCover.covers k).symm
  refine ⟨check_congr hcovers, literalOnly_congr hcovers fun k hk => ?_, hp.unreachableArms_eq,
    fun i hi => hp.getElem?_renumbered hi, hp.comesFirst_iff, ?_⟩
  · exact (hp.mem_literalKeys_iff (mt (hcovers k).mpr hk)).symm
  have hall := pruned_of_subset (List.Subset.refl (unreachableArms key arms))
  rw [hall.unreachableArms_eq, List.filter_eq_nil_iff.mpr, List.map_nil]
  intro i hi
  simpa using hi

/-- Of three reported arms two tests for `A` are taken out; the literal for `B` moves up. -/
theorem without_unreachable_is_safe_of_repeated_tests :
    ∃ (variants : List (String × Bool)) (arms : List (Arm (String × Bool))),
      variants = [("A", false), ("B", true), ("C", false)] ∧
      arms = [.typeTest (some ("A", false)), .typeTest (some ("A", true)),
        .literal (some ("A", false)), .literal (some ("B", false)), .typeTest none,
        .typeTest (some ("A", false))] ∧
      unreachableArms Prod.fst arms = [1, 2, 5] ∧
      check Prod.fst variants (without [5, 1] arms) = .missing [("B", true), ("C", false)] ∧
      literalOnly Prod.fst variants (without [5, 1] arms) = [("B", true)] ∧
      unreachableArms Prod.fst (without [5, 1] arms) = [1] ∧
      (∀ (I : Interpretation String Nat) (x : String × Nat),
        ComesFirst Prod.fst I arms 3 x ↔
          ComesFirst Prod.fst (I.without [5, 1]) (without [5, 1] arms) 2 x) := by
  refine ⟨_, _, rfl, rfl, by decide, ?_, ?_, ?_, ?_⟩
  · exact (without_unreachable_is_safe Nat Prod.fst _ _ [5, 1] (by decide)).1
  · exact (without_unreachable_is_safe Nat Prod.fst _ _ [5, 1] (by decide)).2.1
  · exact (without_unreachable_is_safe Nat Prod.fst [] _ [5, 1] (by decide)).2.2.1
  · intro I x
    exact ((without_unreachable_is_safe Nat Prod.fst [] _ [5, 1] (by decide)).2.2.2.2.1 I x 3).trans
      (and_iff_right (by decide))

end MatchCover.Coverage

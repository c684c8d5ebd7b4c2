import Mathlib.Data.Fin.VecNotation
import Mathlib.Order.Hom.Basic
import MatchCover.Proofs.Coverage.Shadowing

/-!
# More arms

Arms that are put between the others, wherever and of whatever kind, take nothing away. What was
covered stays covered (`Covers.mono`), so at most fewer variants are missing. What stood before an
arm still stands before it, so a shadowed arm stays shadowed (`Shadowed.mono`) and is reported in its
new place.
-/

namespace MatchCover.Coverage

variable {α κ : Type} {key : α → κ}

/-! ## Arms among others -/

section
variable {arms more : List (Arm α)} {k : κ}

theorem Covers.mono (h : arms ⊆ more) (hk : Covers key arms k) : Covers key more k := by
  rcases hk with hd | hk
  · exact .inl (h hd)
  · obtain ⟨t, ht, rfl⟩ := mem_testedKeys.mp hk
    exact .inr (mem_testedKeys.mpr ⟨t, h ht, rfl⟩)

theorem Shadowed.mono {arm : Arm α} (h : arms ⊆ more) (hs : Shadowed key arms arm) :
    Shadowed key more arm := by
  cases ht : arm.type? with
  | none =>
    rw [shadowed_of_type?_eq_none ht] at hs ⊢
    exact h hs
  | some t =>
    rw [shadowed_of_type?_eq_some ht] at hs ⊢
    exact hs.mono h

theorem covers_of_typeTest_mem {t : α} (h : .typeTest (some t) ∈ arms) : Covers key arms (key t) :=
  .inr (mem_testedKeys.mpr ⟨t, h, rfl⟩)

theorem uncovered_mono [DecidableEq κ] {variants : List α} (h : arms ⊆ more) :
    (uncovered key variants more).Sublist (uncovered key variants arms) := by
  refine List.monotone_filter_right _ fun v hv => ?_
  rw [decide_eq_true_eq] at hv ⊢
  exact mt (Covers.mono h) hv

end

/-! ## Places of the arms -/

section
variable {arms more : List (Arm α)} {place : Fin arms.length ↪o Fin more.length}

theorem subset_of_place (h : ∀ i, more[place i] = arms[i]) : arms ⊆ more := by
  intro arm harm
  obtain ⟨i, hi, rfl⟩ := List.mem_iff_getElem.mp harm
  have hplace : more[place ⟨i, hi⟩] = arms[i] := h ⟨i, hi⟩
  rw [← hplace]
  exact List.getElem_mem _

/-- What stands before an arm stands before its place. -/
theorem take_subset_of_place (h : ∀ i, more[place i] = arms[i]) (i : Fin arms.length) :
    arms.take i ⊆ more.take (place i) := by
  intro arm harm
  obtain ⟨j, hj, rfl⟩ := List.mem_take_iff_getElem.mp harm
  have hlt : j < arms.length := by omega
  have hplace : more[place ⟨j, hlt⟩] = arms[j] := h ⟨j, hlt⟩
  have hbefore : place ⟨j, hlt⟩ < place i := place.lt_iff_lt.mpr (Fin.mk_lt_of_lt_val (by omega))
  rw [← hplace]
  exact List.mem_take_iff_getElem.mpr ⟨place ⟨j, hlt⟩, by omega, rfl⟩

theorem mem_unreachableArms_place [DecidableEq κ] (h : ∀ i, more[place i] = arms[i])
    {i : Fin arms.length} (hi : ↑i ∈ unreachableArms key arms) :
    ↑(place i) ∈ unreachableArms key more := by
  have hs : Shadowed key (arms.take i) arms[i] :=
    (mem_unreachableArms (List.getElem?_eq_getElem i.isLt)).mp hi
  have hs' : Shadowed key (more.take (place i)) more[place i] := by
    rw [h i]
    exact hs.mono (take_subset_of_place h i)
  exact (mem_unreachableArms (List.getElem?_eq_getElem (place i).isLt)).mpr hs'

end

/-! ## Inserted arms -/

/-- Other arms are inserted between the arms of a match, so that each has a new place. Then only
variants that were missing before are missing, none of them of a type that some arm tests for, and
every arm that was unreachable still is. -/
theorem inserted_arms_hide_nothing [DecidableEq κ] (key : α → κ) (variants : List α)
    (arms more : List (Arm α)) (place : Fin arms.length ↪o Fin more.length)
    (h : ∀ i, more[place i] = arms[i]) :
    (check key variants more).missingVariants.Sublist (check key variants arms).missingVariants ∧
    (∀ i : Fin arms.length, ↑i ∈ unreachableArms key arms →
      ↑(place i) ∈ unreachableArms key more) ∧
    ∀ t, .typeTest (some t) ∈ more →
      ∀ v ∈ (check key variants more).missingVariants, key v ≠ key t := by
  rw [missingVariants_check, missingVariants_check]
  refine ⟨uncovered_mono (subset_of_place h), fun i hi => mem_unreachableArms_place h hi, ?_⟩
  intro t ht v hv hkey
  refine (mem_uncovered.mp hv).2 ?_
  rw [hkey]
  exact covers_of_typeTest_mem ht

/-- A test for `C` comes in front of the repeated test for `A`, and a pattern of unknown type after
the literal. -/
theorem inserted_arms_hide_nothing_of_test :
    ∃ (variants : List (String × Bool)) (arms more : List (Arm (String × Bool))),
      variants = [("A", false), ("B", false), ("C", true), ("B", true)] ∧
      arms = [.typeTest (some ("A", false)), .typeTest (some ("A", true)),
        .literal (some ("B", false))] ∧
      more = [.typeTest (some ("A", false)), .typeTest (some ("C", false)),
        .typeTest (some ("A", true)), .literal (some ("B", false)), .typeTest none] ∧
      check Prod.fst variants arms = .missing [("B", false), ("C", true)] ∧
      unreachableArms Prod.fst arms = [1] ∧
      (check Prod.fst variants more).missingVariants.Sublist [("B", false), ("C", true)] ∧
      2 ∈ unreachableArms Prod.fst more ∧
      ∀ v ∈ (check Prod.fst variants more).missingVariants, v.1 ≠ "C" := by
  let arms : List (Arm (String × Bool)) := [.typeTest (some ("A", false)),
    .typeTest (some ("A", true)), .literal (some ("B", false))]
  let more : List (Arm (String × Bool)) := [.typeTest (some ("A", false)),
    .typeTest (some ("C", false)), .typeTest (some ("A", true)), .literal (some ("B", false)),
    .typeTest none]
  let place : Fin arms.length ↪o Fin more.length := OrderEmbedding.ofStrictMono ![0, 2, 3] (by decide)
  obtain ⟨hmissing, hunreachable, htested⟩ := inserted_arms_hide_nothing Prod.fst
    [("A", false), ("B", false), ("C", true), ("B", true)] arms more place (by decide)
  exact ⟨_, arms, more, rfl, rfl, rfl, by decide, by decide, hmissing,
    hunreachable (1 : Fin 3) (by decide), htested ("C", false) (by decide)⟩

end MatchCover.Coverage

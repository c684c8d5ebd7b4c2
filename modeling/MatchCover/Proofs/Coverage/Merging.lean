import MatchCover.Proofs.Coverage.Shadowing

/-!
# Keys that are merged

Two ways to compare types, of which the second takes for the same what the first does and maybe
more: `key` and `f ∘ key`. Under the second the arms cover at least as much. So no other variants
are missing (`missingVariants_merge_sublist`), and the arms that cannot be chosen still cannot
(`unreachableArms_merge_sublist`).
-/

namespace MatchCover.Coverage

variable {α κ κ' : Type} {key : α → κ} {arms : List (Arm α)} (f : κ → κ')

theorem Covers.merge {k : κ} (h : Covers key arms k) : Covers (f ∘ key) arms (f k) := by
  rcases h with hd | hk
  · exact .inl hd
  · obtain ⟨t, ht, rfl⟩ := mem_testedKeys.mp hk
    exact .inr (mem_testedKeys.mpr ⟨t, ht, rfl⟩)

theorem Shadowed.merge {before : List (Arm α)} {arm : Arm α} (h : Shadowed key before arm) :
    Shadowed (f ∘ key) before arm := by
  cases ht : arm.type? with
  | none =>
    rw [shadowed_of_type?_eq_none ht] at h ⊢
    exact h
  | some t =>
    rw [shadowed_of_type?_eq_some ht] at h ⊢
    exact h.merge f

variable [DecidableEq κ] [DecidableEq κ']

/-- The first variant of a merged key is the first of its own key. -/
theorem firstOfEach_merge_sublist {seen : List κ} {seen' : List κ'}
    (hseen : ∀ k ∈ seen, f k ∈ seen') (vs : List α) :
    (firstOfEach (f ∘ key) seen' vs).Sublist (firstOfEach key seen vs) := by
  induction vs generalizing seen seen' with
  | nil => exact .slnil
  | cons v vs ih =>
    rw [firstOfEach, firstOfEach]
    by_cases hmerged : f (key v) ∈ seen'
    · rw [Function.comp_apply, if_pos hmerged]
      split
      · exact ih hseen
      · exact (ih (List.forall_mem_cons.mpr ⟨hmerged, hseen⟩)).cons v
    · have hnew : key v ∉ seen := fun h => hmerged (hseen _ h)
      rw [Function.comp_apply, if_neg hmerged, if_neg hnew]
      refine (ih ?_).cons_cons v
      intro k hk
      rcases List.mem_cons.mp hk with rfl | hk
      · exact List.mem_cons_self
      · exact List.mem_cons_of_mem _ (hseen k hk)

theorem uncovered_merge_sublist (variants : List α) :
    (uncovered (f ∘ key) variants arms).Sublist (uncovered key variants arms) := by
  have hfirst : (firstOfEach (f ∘ key) [] variants).Sublist (firstOfEach key [] variants) :=
    firstOfEach_merge_sublist f (by simp) variants
  refine (List.monotone_filter_right _ fun v hv => ?_).trans (hfirst.filter _)
  rw [decide_eq_true_eq] at hv ⊢
  exact mt (Covers.merge f) hv

theorem missingVariants_merge_sublist (variants : List α) :
    (check (f ∘ key) variants arms).missingVariants.Sublist
      (check key variants arms).missingVariants := by
  rw [missingVariants_check, missingVariants_check]
  exact uncovered_merge_sublist f variants

theorem unreachableArms_merge_sublist :
    (unreachableArms key arms).Sublist (unreachableArms (f ∘ key) arms) := by
  rw [unreachableArms_eq_filter, unreachableArms_eq_filter]
  refine List.monotone_filter_right _ fun i hi => ?_
  rw [decide_eq_true_eq] at hi ⊢
  obtain ⟨arm, harm, hs⟩ := hi
  exact ⟨arm, harm, Shadowed.merge f hs⟩

end MatchCover.Coverage

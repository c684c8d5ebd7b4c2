import MatchCover.Proofs.Coverage.Shadowing

/-!
# Arms of other types

An arm whose type has another key makes no difference to a type: put in anywhere, it covers no value
of that type (`covers_insert`) and touches none. So the variants of all such types are missing or not
as they were without the arm, and so are the arms behind it reported.
-/

namespace MatchCover.Coverage

variable {α κ : Type} {key : α → κ} {arm other : Arm α} {before after : List (Arm α)} {k : κ}

/-- The arm is for a type that is known and does not have the key. -/
def Arm.Misses (key : α → κ) (arm : Arm α) (k : κ) : Prop := ∃ t, arm.type? = some t ∧ key t ≠ k

theorem covers_insert (h : arm.Misses key k) :
    Covers key (before ++ arm :: after) k ↔ Covers key (before ++ after) k := by
  have hnot : ¬ Covers key [arm] k := by
    obtain ⟨t, ht, hne⟩ := h
    rw [covers_singleton]
    rintro (rfl | ⟨u, rfl, hu⟩)
    · cases ht
    · cases ht
      exact hne hu
  rw [← List.singleton_append, covers_append, covers_append, covers_append, or_iff_right hnot]

theorem mem_literalKeys_insert (h : arm.Misses key k) :
    k ∈ literalKeys key (before ++ arm :: after) ↔ k ∈ literalKeys key (before ++ after) := by
  have hnot : k ∉ literalKeys key [arm] := by
    obtain ⟨t, ht, hne⟩ := h
    rw [mem_literalKeys_singleton]
    rintro ⟨u, rfl, hu⟩
    cases ht
    exact hne hu
  rw [← List.singleton_append, literalKeys_append, literalKeys_append, literalKeys_append,
    List.mem_append, List.mem_append, List.mem_append, or_iff_right hnot]

variable [DecidableEq κ] {p : α → Prop} [DecidablePred p] {variants : List α}

/-- Among the variants that the arm misses the same are missing. -/
theorem filter_missingVariants_insert (h : ∀ v, p v → arm.Misses key (key v)) :
    (check key variants (before ++ arm :: after)).missingVariants.filter p =
      (check key variants (before ++ after)).missingVariants.filter p := by
  rw [missingVariants_check, missingVariants_check, uncovered, uncovered, List.filter_filter,
    List.filter_filter]
  refine List.filter_congr fun v _ => ?_
  by_cases hp : p v
  · simp only [covers_insert (h v hp)]
  · simp [hp]

/-- Among the variants that the arm misses the same are touched by literals only. -/
theorem filter_literalOnly_insert (h : ∀ v, p v → arm.Misses key (key v)) :
    (literalOnly key variants (before ++ arm :: after)).filter p =
      (literalOnly key variants (before ++ after)).filter p := by
  rw [literalOnly_eq_filter_uncovered, literalOnly_eq_filter_uncovered, uncovered, uncovered,
    List.filter_filter, List.filter_filter, List.filter_filter, List.filter_filter]
  refine List.filter_congr fun v _ => ?_
  by_cases hp : p v
  · simp only [covers_insert (h v hp), mem_literalKeys_insert (h v hp)]
  · simp [hp]

/-- An arm behind it, of a type that it misses, is reported in its new place as it was before. -/
theorem mem_unreachableArms_insert {t : α} {j : Nat} (hother : after[j]? = some other)
    (ht : other.type? = some t) (h : arm.Misses key (key t)) :
    before.length + 1 + j ∈ unreachableArms key (before ++ arm :: after) ↔
      before.length + j ∈ unreachableArms key (before ++ after) := by
  have hplace : (before ++ after)[before.length + j]? = some other := by
    rw [List.getElem?_append_right (by omega), Nat.add_sub_cancel_left, hother]
  have hplace' : (before ++ arm :: after)[before.length + 1 + j]? = some other := by
    rw [List.getElem?_append_right (by omega), Nat.add_assoc, Nat.add_sub_cancel_left,
      Nat.add_comm, List.getElem?_cons_succ, hother]
  have htake : (before ++ after).take (before.length + j) = before ++ after.take j :=
    List.take_length_add_append j
  have htake' : (before ++ arm :: after).take (before.length + 1 + j) =
      before ++ arm :: after.take j := by
    rw [Nat.add_assoc, List.take_length_add_append, Nat.add_comm, List.take_succ_cons]
  rw [mem_unreachableArms hplace, mem_unreachableArms hplace', htake, htake',
    shadowed_of_type?_eq_some ht, shadowed_of_type?_eq_some ht, covers_insert h]

/-- Put in anywhere before the other arm, the arm makes no difference to whether that is reported. -/
def LeavesReport (key : α → κ) (arm other : Arm α) : Prop :=
  ∀ (before after : List (Arm α)) (j : Nat), after[j]? = some other →
    (before.length + 1 + j ∈ unreachableArms key (before ++ arm :: after) ↔
      before.length + j ∈ unreachableArms key (before ++ after))

theorem leavesReport_of_misses {t : α} (ht : other.type? = some t) (h : arm.Misses key (key t)) :
    LeavesReport key arm other :=
  fun _ _ _ hother => mem_unreachableArms_insert hother ht h

end MatchCover.Coverage

import MatchCover.Proofs.Coverage.Shadowing

/-!
# Completing a match

Tests for types leave missing those variants whose keys they do not test (`uncovered_append_tests`),
and are all reachable if their keys are new and distinct (`unreachableArms_append_tests`). The
missing variants are such types. So tests for all of them, in any order, complete the match, and
tests for all but one leave that one missing.
-/

namespace MatchCover.Coverage

variable {α κ : Type}

def tests (ts : List α) : List (Arm α) := ts.map fun t => .typeTest (some t)

section
variable {key : α → κ} {ts : List α} {k : κ}

theorem testedKeys_tests : testedKeys key (tests ts) = ts.map key := by
  rw [testedKeys, tests, List.filterMap_map]
  exact congrFun List.filterMap_eq_map ts

theorem covers_tests : Covers key (tests ts) k ↔ k ∈ ts.map key := by
  rw [Covers, testedKeys_tests, or_iff_right]
  simp [tests]

end

section
variable [DecidableEq κ] {key : α → κ} {variants ms ts added rest : List α} {arms : List (Arm α)}
  {t : α}

theorem uncovered_append_tests :
    uncovered key variants (arms ++ tests ts) =
      (uncovered key variants arms).filter (key · ∉ ts.map key) := by
  rw [uncovered_append]
  refine List.filter_congr fun v _ => ?_
  rw [decide_eq_decide, covers_tests]

/-- Tests for distinct keys that are not covered are neither shadowed by the arms nor by each
other. -/
theorem unreachableArms_append_tests (hnd : (ts.map key).Nodup)
    (hnew : ∀ t ∈ ts, ¬ Covers key arms (key t)) :
    unreachableArms key (arms ++ tests ts) = unreachableArms key arms := by
  -- from the last test on, since each must be new to the arms and to the tests before it
  induction ts using List.reverseRecOn with
  | nil => rw [tests, List.map_nil, List.append_nil]
  | append_singleton ts t ih =>
    rw [List.map_append, List.nodup_append] at hnd
    have hs : ¬ Shadowed key (arms ++ tests ts) (.typeTest (some t)) := by
      rw [shadowed_of_type?_eq_some rfl, covers_append, covers_tests, not_or]
      refine ⟨hnew t (by simp), fun hmem => ?_⟩
      exact hnd.2.2 _ hmem (key t) (by simp) rfl
    have hsplit : arms ++ tests (ts ++ [t]) = arms ++ tests ts ++ [.typeTest (some t)] := by
      simp [tests]
    rw [hsplit, unreachableArms_concat, if_neg hs, List.append_nil]
    exact ih hnd.1 fun u hu => hnew u (List.mem_append_left _ hu)

theorem discard_notMem_of_missing (h : check key variants arms = .missing ms) :
    .discard ∉ arms := by
  intro hd
  rw [check_of_discard hd] at h
  cases h

/-- Nothing is noted for literals when nothing is missing. -/
theorem analyze_of_uncovered_eq_nil (h : uncovered key variants arms = []) :
    analyze key variants arms = ⟨.exhaustive, unreachableArms key arms, []⟩ := by
  rw [analyze, check_eq_ofMissing_uncovered, literalOnly_eq_filter_uncovered, h, List.filter_nil,
    Verdict.ofMissing]

theorem nodup_map_key_of_missing (h : check key variants arms = .missing ms)
    (hp : added.Perm ms) : (added.map key).Nodup := by
  rw [(hp.map key).nodup_iff, ← (check_eq_missing_iff.mp h).1]
  exact nodup_map_key_uncovered

theorem filter_notMem_map_key_eq_nil (h : ts ⊆ added) :
    ts.filter (key · ∉ added.map key) = [] := by
  rw [List.filter_eq_nil_iff]
  intro t ht
  have hmem : key t ∈ added.map key := List.mem_map_of_mem (h ht)
  simpa using hmem

/-- Tests for the missing variants complete the match, in any order. -/
theorem analyze_append_tests (h : check key variants arms = .missing ms) (hp : added.Perm ms) :
    analyze key variants (arms ++ tests added) = ⟨.exhaustive, unreachableArms key arms, []⟩ := by
  obtain ⟨hms, -⟩ := check_eq_missing_iff.mp h
  have hall : uncovered key variants (arms ++ tests added) = [] := by
    rw [uncovered_append_tests, hms, filter_notMem_map_key_eq_nil hp.symm.subset]
  have hnew : ∀ t ∈ added, ¬ Covers key arms (key t) := fun t ht =>
    (mem_uncovered.mp (hms ▸ hp.subset ht)).2
  rw [analyze_of_uncovered_eq_nil hall,
    unreachableArms_append_tests (nodup_map_key_of_missing h hp) hnew]

/-- Tests for all missing variants but one leave that one missing. -/
theorem check_append_tests_cons (h : check key variants arms = .missing ms)
    (hp : (t :: rest).Perm ms) : check key variants (arms ++ tests rest) = .missing [t] := by
  obtain ⟨hms, -⟩ := check_eq_missing_iff.mp h
  have hnd := nodup_map_key_of_missing h hp
  rw [List.map_cons, List.nodup_cons] at hnd
  have hleft : (t :: rest).filter (key · ∉ rest.map key) = [t] := by
    rw [List.filter_cons_of_pos (by simpa using hnd.1),
      filter_notMem_map_key_eq_nil (List.Subset.refl rest)]
  have hone : uncovered key variants (arms ++ tests rest) = [t] := by
    rw [uncovered_append_tests, hms, ← List.perm_singleton, ← hleft]
    exact (hp.filter _).symm
  exact check_eq_missing_iff.mpr ⟨hone, List.cons_ne_nil t []⟩

/-- A discard completes a match that has none. -/
theorem analyze_append_discard (h : .discard ∉ arms) :
    analyze key variants (arms ++ [.discard]) = ⟨.exhaustive, unreachableArms key arms, []⟩ := by
  have hall : uncovered key variants (arms ++ [.discard]) = [] :=
    List.filter_eq_nil_iff.mpr fun v _ => by simp [Covers]
  have hs : ¬ Shadowed key arms .discard := mt (shadowed_of_type?_eq_none rfl).mp h
  rw [analyze_of_uncovered_eq_nil hall, unreachableArms_concat, if_neg hs, List.append_nil]

end

end MatchCover.Coverage

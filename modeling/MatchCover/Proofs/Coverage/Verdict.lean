import MatchCover.Proofs.Coverage.Interpretation

/-!
# The verdict of the check

The check finds a match exhaustive exactly if every interpretation of its arms matches every value
of every variant, and else gives the variants that some interpretation leaves open. A verdict is
computed from the tested keys alone; `leavesOpen_iff` ties these to the interpretations.
-/

namespace MatchCover.Coverage

variable {α κ π : Type}

/-! ## Exhaustive or missing -/

namespace Verdict

theorem ofMissing_eq_exhaustive {vs : List α} : ofMissing vs = exhaustive ↔ vs = [] := by
  cases vs <;> simp [ofMissing]

theorem ofMissing_of_ne_nil {vs : List α} (h : vs ≠ []) : ofMissing vs = missing vs := by
  cases vs with
  | nil => exact absurd rfl h
  | cons v vs => rfl

end Verdict

/-! ## The first variant of each key -/

section
variable [DecidableEq κ] {key : α → κ}

def sameKey (key : α → κ) (t u : α) : Bool := key t == key u

theorem firstOfEach_eq_eraseDupsBy (seen : List κ) (vs : List α) :
    firstOfEach key seen vs = (vs.filter (key · ∉ seen)).eraseDupsBy (sameKey key) := by
  induction vs generalizing seen with
  | nil => rfl
  | cons v vs ih =>
    rw [firstOfEach]
    split
    · next h => rw [ih, List.filter_cons_of_neg (by simpa using h)]
    · next h =>
      rw [ih, List.filter_cons_of_pos (by simpa using h), List.eraseDupsBy_cons,
        List.filter_filter]
      congr 3
      funext w
      rw [Bool.eq_iff_iff]
      simp [sameKey]

theorem eraseDupsBy_sameKey_eq_nil {vs : List α} : vs.eraseDupsBy (sameKey key) = [] ↔ vs = [] := by
  cases vs <;> simp [List.eraseDupsBy_cons]

/-! ## What the check computes -/

variable {variants : List α} {arms : List (Arm α)}

theorem check_of_discard (h : .discard ∈ arms) : check key variants arms = .exhaustive := by
  rw [check, if_pos (any_isDiscard.mpr h)]

theorem check_of_no_discard (h : .discard ∉ arms) :
    check key variants arms =
      .ofMissing ((variants.filter (key · ∉ testedKeys key arms)).eraseDupsBy (sameKey key)) := by
  rw [check, if_neg (mt any_isDiscard.mp h), firstOfEach_eq_eraseDupsBy]
  simp

open scoped Classical in
theorem check_eq_ofMissing (π : Type) [Infinite π] :
    check key variants arms =
      .ofMissing ((variants.filter (LeavesOpen π key arms <| key ·)).eraseDupsBy (sameKey key)) := by
  by_cases hd : .discard ∈ arms
  · have hnil : variants.filter (LeavesOpen π key arms <| key ·) = [] := by
      rw [List.filter_eq_nil_iff]
      intro v _ h
      exact (leavesOpen_iff.mp (of_decide_eq_true h)).1 hd
    rw [check_of_discard hd, hnil]
    rfl
  · have hopen : ∀ k, LeavesOpen π key arms k ↔ k ∉ testedKeys key arms := fun k => by
      rw [leavesOpen_iff]
      exact and_iff_right hd
    simp only [check_of_no_discard hd, hopen]

end

/-! ## Soundness and completeness -/

theorem forall_matched_iff {key : α → κ} {arms : List (Arm α)} {k : κ} :
    (∀ (I : Interpretation κ π) (p : π), Matched key I arms (k, p)) ↔ ¬ LeavesOpen π key arms k := by
  simp only [LeavesOpen, not_exists, not_not]

variable [DecidableEq κ]

open scoped Classical in
/-- A match is exhaustive exactly if, however its arms are interpreted, they match every value of
every variant. Else the verdict gives the variants of which some interpretation leaves a value
unmatched, in their order and only the first one of each key. -/
theorem check_decides_coverage (π : Type) [Infinite π] (key : α → κ) (variants : List α)
    (arms : List (Arm α)) :
    (check key variants arms = .exhaustive ↔
      ∀ I : Interpretation κ π, ∀ v ∈ variants, ∀ p, Matched key I arms (key v, p)) ∧
    (check key variants arms ≠ .exhaustive → ∃ ms,
      check key variants arms = .missing ms ∧ ms ≠ [] ∧
      ms = (variants.filter fun v => ∃ (I : Interpretation κ π) (p : π),
        ¬ Matched key I arms (key v, p)).eraseDupsBy (sameKey key)) := by
  have hcheck : check key variants arms = .ofMissing _ := check_eq_ofMissing π
  constructor
  · rw [hcheck, Verdict.ofMissing_eq_exhaustive, eraseDupsBy_sameKey_eq_nil,
      List.filter_eq_nil_iff]
    constructor
    · intro h I v hv p
      exact forall_matched_iff.mpr (by simpa using h v hv) I p
    · intro h v hv
      simpa using forall_matched_iff.mp fun I p => h I v hv p
  · intro hne
    have hnil := fun h => hne (hcheck.trans (Verdict.ofMissing_eq_exhaustive.mpr h))
    exact ⟨_, hcheck.trans (Verdict.ofMissing_of_ne_nil hnil), hnil, rfl⟩

/-- Nullable marks do not count here; the first variant is touched by a literal only. -/
theorem check_decides_coverage_of_literals :
    check Prod.fst [("A", true), ("B", false), ("A", false), ("C", false)]
      [.literal (some ("A", false)), .typeTest none, .typeTest (some ("B", true)), .literal none] =
        .missing [("A", true), ("C", false)] ∧
    ∃ I : Interpretation String Nat, ∃ v ∈ [("A", true), ("B", false), ("A", false), ("C", false)],
      ∃ p, ¬ Matched Prod.fst I [.literal (some ("A", false)), .typeTest none,
        .typeTest (some ("B", true)), .literal none] (v.1, p) := by
  refine ⟨by decide, ?_⟩
  by_contra h
  push Not at h
  have hex := (check_decides_coverage Nat Prod.fst _ _).1.mpr h
  exact absurd hex (by decide)

end MatchCover.Coverage

import MatchCover.Proofs.Coverage.Shadowing

/-!
# The arm that is chosen

`ComesFirst` says that an arm matches a value and none before it does. A shadowed arm never comes
first (`matched_of_shadowed`). An arm of known type that is not shadowed does under some
interpretation (`exists_comesFirst`): where unknown patterns match nothing and all literals have
different payloads, nothing before it matches the value of its type with its own payload.
-/

namespace MatchCover.Coverage

variable {α κ π : Type}

/-- The arm of number `i` matches the value, and no arm before it does. -/
def ComesFirst (key : α → κ) (I : Interpretation κ π) (arms : List (Arm α)) (i : Nat)
    (x : κ × π) : Prop :=
  (∃ arm, arms[i]? = some arm ∧ arm.Matches key I i x) ∧ ¬ Matched key I (arms.take i) x

section
variable {key : α → κ} {I : Interpretation κ π} {arms before : List (Arm α)} {arm : Arm α}
  {i : Nat} {x : κ × π}

theorem matched_concat :
    Matched key I (arms ++ [arm]) x ↔
      Matched key I arms x ∨ arm.Matches key I arms.length x := by
  constructor
  · rintro ⟨i, a, hi, hm⟩
    rcases Nat.lt_or_ge i arms.length with h | h
    · rw [List.getElem?_append_left h] at hi
      exact .inl ⟨i, a, hi, hm⟩
    · rw [List.getElem?_append_right h, List.getElem?_singleton] at hi
      split at hi
      · next h0 =>
        cases hi
        obtain rfl : i = arms.length := by omega
        exact .inr hm
      · cases hi
  · rintro (⟨i, a, hi, hm⟩ | hm)
    · exact ⟨i, a, by rw [List.getElem?_append_left (List.getElem?_eq_some_iff.mp hi).1, hi], hm⟩
    · exact ⟨arms.length, arm, List.getElem?_concat_length, hm⟩

theorem comesFirst_concat :
    ComesFirst key I (arms ++ [arm]) i x ↔
      ComesFirst key I arms i x ∨
        i = arms.length ∧ arm.Matches key I i x ∧ ¬ Matched key I arms x := by
  rcases Nat.lt_trichotomy i arms.length with h | rfl | h
  · rw [ComesFirst, List.getElem?_append_left h, List.take_append_of_le_length h.le, ← ComesFirst]
    exact (or_iff_left fun h' => h.ne h'.1).symm
  · simp [ComesFirst]
  · -- no arm has the number
    have hnot {l : List (Arm α)} (hl : l.length ≤ i) : ¬ ComesFirst key I l i x := by
      rintro ⟨⟨a, ha, -⟩, -⟩
      rw [List.getElem?_eq_none hl] at ha
      cases ha
    have hlen : (arms ++ [arm]).length ≤ i := by
      rw [List.length_append, List.length_singleton]
      omega
    simp [hnot hlen, hnot h.le, h.ne']

theorem discard_mem_take : .discard ∈ arms.take i ↔ ∃ j < i, arms[j]? = some .discard := by
  simp [List.mem_iff_getElem?, List.getElem?_take]

/-- What a shadowed arm matches is matched before it. -/
theorem matched_of_shadowed (h : Shadowed key before arm) (hm : arm.Matches key I i x) :
    Matched key I before x := by
  obtain hd | ⟨t, ht, hk⟩ := h
  · exact matched_of_discard hd x
  · have hx : x.1 = key t := by
      cases arm with
      | discard => cases ht
      | literal u =>
        cases ht
        exact (Prod.ext_iff.mp hm).1
      | typeTest u =>
        cases ht
        exact hm
    have hk' : x.1 ∈ testedKeys key before := hx ▸ hk
    exact matched_of_tested hk' x.2

/-- An arm of known type that is not shadowed comes first for some value. -/
theorem exists_comesFirst [Infinite π] {t : α} (ha : arms[i]? = some arm) (ht : arm.type? = some t)
    (h : ¬ Shadowed key (arms.take i) arm) :
    ∃ (I : Interpretation κ π) (x : κ × π), ComesFirst key I arms i x := by
  rw [shadowed_of_type?_eq_some ht, Covers, not_or] at h
  -- all literals differ, so none of those before the arm has the payload of its own number
  let payload := Infinite.natEmbedding π
  refine ⟨⟨payload, fun _ => ∅⟩, (key t, payload i), ⟨arm, ha, ?_⟩, fun hm => ?_⟩
  · cases arm with
    | discard => cases ht
    | literal u =>
      cases ht
      rfl
    | typeTest u =>
      cases ht
      rfl
  · obtain ⟨j, hj, hp⟩ := payload_eq_of_matched h.1 h.2 hm
    have hlt : j < i := hj.trans_le (List.length_take_le i arms)
    exact hlt.ne (payload.injective hp)

end

/-! ## Soundness and completeness -/

variable [DecidableEq κ]

/-- An arm that is reported never comes first, however the arms are interpreted; a test or literal
of known type that is not reported does, for some value under some interpretation. All other arms
are reported exactly if they come after a discard. The report is in order and without repetition. -/
theorem unreachableArms_decides_choice (π : Type) [Infinite π] (key : α → κ)
    (arms : List (Arm α)) :
    (unreachableArms key arms).Pairwise (· < ·) ∧
    (∀ i ∈ unreachableArms key arms, i < arms.length) ∧
    (∀ i ∈ unreachableArms key arms, ∀ (I : Interpretation κ π) (x : κ × π),
      ¬ ComesFirst key I arms i x) ∧
    (∀ i t, arms[i]? = some (.typeTest (some t)) ∨ arms[i]? = some (.literal (some t)) →
      i ∉ unreachableArms key arms →
      ∃ (I : Interpretation κ π) (x : κ × π), ComesFirst key I arms i x) ∧
    (∀ i, arms[i]? = some .discard ∨ arms[i]? = some (.typeTest none) ∨
        arms[i]? = some (.literal none) →
      (i ∈ unreachableArms key arms ↔ ∃ j < i, arms[j]? = some .discard)) := by
  refine ⟨pairwise_unreachableArms, fun i hi => lt_length_of_mem_unreachableArms hi, ?_, ?_, ?_⟩
  · rintro i hi I x ⟨⟨arm, ha, hm⟩, hnot⟩
    exact hnot (matched_of_shadowed ((mem_unreachableArms ha).mp hi) hm)
  · intro i t ha hi
    obtain ⟨arm, ha, ht⟩ : ∃ arm, arms[i]? = some arm ∧ arm.type? = some t := by
      rcases ha with ha | ha <;> exact ⟨_, ha, rfl⟩
    exact exists_comesFirst ha ht (mt (mem_unreachableArms ha).mpr hi)
  · intro i ha
    obtain ⟨arm, ha, ht⟩ : ∃ arm, arms[i]? = some arm ∧ arm.type? = none := by
      rcases ha with ha | ha | ha <;> exact ⟨_, ha, rfl⟩
    rw [mem_unreachableArms ha, shadowed_of_type?_eq_none ht, discard_mem_take]

/-- A literal stands before the test for its type and another after it; a discard comes before two
more arms. -/
theorem unreachableArms_decides_choice_of_mixed_arms :
    ∃ arms : List (Arm (String × Bool)),
      arms = [.literal (some ("A", false)), .typeTest (some ("A", true)),
        .literal (some ("A", false)), .typeTest none, .discard, .typeTest (some ("B", false)),
        .literal none] ∧
      unreachableArms Prod.fst arms = [2, 5, 6] ∧
      (∃ (I : Interpretation String Nat) (x : String × Nat), ComesFirst Prod.fst I arms 1 x) ∧
      (∀ (I : Interpretation String Nat) (x : String × Nat), ¬ ComesFirst Prod.fst I arms 2 x) ∧
      ∃ j < 6, arms[j]? = some .discard := by
  refine ⟨_, rfl, by decide, ?_, ?_, ?_⟩
  · exact (unreachableArms_decides_choice Nat Prod.fst _).2.2.2.1 1 ("A", true) (.inl rfl)
      (by decide)
  · exact (unreachableArms_decides_choice Nat Prod.fst _).2.2.1 2 (by decide)
  · exact ((unreachableArms_decides_choice Nat Prod.fst _).2.2.2.2 6 (.inr (.inr rfl))).mp
      (by decide)

end MatchCover.Coverage

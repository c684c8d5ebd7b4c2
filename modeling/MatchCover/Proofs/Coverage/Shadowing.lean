import MatchCover.Proofs.Coverage.Covering

/-!
# Shadowed arms

Of the arms that match a value the first one is chosen. An arm is `Shadowed` by the arms before it
if one of them is a discard or tests for its type. The loop over the arms reports exactly the
shadowed ones: `unreachableArms_concat` says what one more arm adds, and `unreachableArms_eq_filter`
what a whole run reports.
-/

namespace MatchCover.Coverage

variable {α κ π : Type}

/-! ## Shadowed arms -/

/-- The type of a pattern, if it has one that is known. -/
def Arm.type? : Arm α → Option α
  | discard => none
  | literal t => t
  | typeTest t => t

/-- A discard comes before the arm, or a test for its type. -/
def Shadowed (key : α → κ) (before : List (Arm α)) (arm : Arm α) : Prop :=
  .discard ∈ before ∨ ∃ t ∈ arm.type?, key t ∈ testedKeys key before

instance [DecidableEq κ] (key : α → κ) (before : List (Arm α)) (arm : Arm α) :
    Decidable (Shadowed key before arm) :=
  decidable_of_iff (before.any Arm.isDiscard ∨ ∃ t ∈ arm.type?, key t ∈ testedKeys key before)
    (or_congr_left any_isDiscard)

section
variable {key : α → κ} {arms before : List (Arm α)} {arm : Arm α} {i : Nat}

theorem shadowed_of_type?_eq_none (h : arm.type? = none) :
    Shadowed key before arm ↔ .discard ∈ before := by
  simp [Shadowed, h]

theorem shadowed_of_type?_eq_some {t : α} (h : arm.type? = some t) :
    Shadowed key before arm ↔ Covers key before (key t) := by
  simp [Shadowed, Covers, h]

/-! ## Arms that cover the same -/

/-- Two lists of arms cover the same keys, and neither or both have a discard. -/
structure SameCover (key : α → κ) (arms arms' : List (Arm α)) : Prop where
  discard : .discard ∈ arms ↔ .discard ∈ arms'
  covers : ∀ k, Covers key arms k ↔ Covers key arms' k

namespace SameCover

variable {arms' : List (Arm α)}

theorem refl : SameCover key arms arms := ⟨Iff.rfl, fun _ => Iff.rfl⟩

theorem trans {arms'' : List (Arm α)} (h : SameCover key arms arms')
    (h' : SameCover key arms' arms'') : SameCover key arms arms'' :=
  ⟨h.discard.trans h'.discard, fun k => (h.covers k).trans (h'.covers k)⟩

theorem append (h : SameCover key arms arms') (added : List (Arm α)) :
    SameCover key (arms ++ added) (arms' ++ added) where
  discard := by rw [List.mem_append, List.mem_append, h.discard]
  covers k := by rw [covers_append, covers_append, h.covers]

theorem shadowed_iff (h : SameCover key arms arms') :
    Shadowed key arms arm ↔ Shadowed key arms' arm := by
  cases ht : arm.type? with
  | none => rw [shadowed_of_type?_eq_none ht, shadowed_of_type?_eq_none ht, h.discard]
  | some t => rw [shadowed_of_type?_eq_some ht, shadowed_of_type?_eq_some ht, h.covers]

/-- A shadowed arm covers nothing new. -/
theorem concat_of_shadowed (h : Shadowed key arms arm) : SameCover key (arms ++ [arm]) arms := by
  constructor
  · rw [List.mem_append, or_iff_left_iff_imp]
    intro hd
    obtain rfl : .discard = arm := List.mem_singleton.mp hd
    exact (shadowed_of_type?_eq_none rfl).mp h
  · intro k
    rw [covers_append, or_iff_left_iff_imp, covers_singleton]
    rintro (rfl | ⟨t, rfl, rfl⟩)
    · exact .inl ((shadowed_of_type?_eq_none rfl).mp h)
    · exact (shadowed_of_type?_eq_some rfl).mp h

end SameCover

/-! ## What the loop reports -/

variable [DecidableEq κ]

/-- The loop is at the arms after `before`, of which it has recorded the tested keys. -/
theorem unreachableFrom_concat {tested : List κ} {n : Nat} (hd : .discard ∉ before)
    (ht : ∀ k, k ∈ tested ↔ k ∈ testedKeys key before) :
    unreachableFrom key n tested (arms ++ [arm]) =
      unreachableFrom key n tested arms ++
        if Shadowed key (before ++ arms) arm then [n + arms.length] else [] := by
  induction arms generalizing before tested n with
  | nil =>
    rcases arm with _ | (_ | t) | (_ | t) <;>
      simp [unreachableFrom, Shadowed, Arm.type?, hd, ht]
  | cons a arms ih =>
    have hlen : n + (a :: arms).length = n + 1 + arms.length := by
      rw [List.length_cons]
      omega
    -- an arm that is no discard leaves the loop at the next arm, with its key recorded
    have hstep (tested' : List κ) (ha : a.isDiscard = false)
        (ht' : ∀ k, k ∈ tested' ↔ k ∈ tested ∨ k ∈ testedKeys key [a]) :
        unreachableFrom key (n + 1) tested' (arms ++ [arm]) =
          unreachableFrom key (n + 1) tested' arms ++
            if Shadowed key (before ++ a :: arms) arm then [n + 1 + arms.length] else [] := by
      have hd' : .discard ∉ before ++ [a] := by
        rw [List.mem_append, List.mem_singleton]
        rintro (hm | rfl)
        · exact hd hm
        · cases ha
      rw [List.append_cons before a arms]
      refine ih hd' fun k => ?_
      rw [ht', ht, testedKeys_append, List.mem_append]
    rw [hlen, List.cons_append]
    cases a with
    | discard =>
      have hs : Shadowed key (before ++ .discard :: arms) arm := .inl (by simp)
      simp only [unreachableFrom, if_pos hs, List.length_append, List.length_singleton,
        List.range'_concat, Nat.one_mul]
    | literal t =>
      cases t with
      | none => exact hstep _ rfl (by simp [testedKeys, Arm.tested?])
      | some t =>
        have h := hstep tested rfl (by simp [testedKeys, Arm.tested?])
        simp only [unreachableFrom]
        split <;> simp [h]
    | typeTest t =>
      cases t with
      | none => exact hstep _ rfl (by simp [testedKeys, Arm.tested?])
      | some t =>
        simp only [unreachableFrom]
        split
        · next hmem =>
          have ht' : ∀ k, k ∈ tested ↔ k ∈ tested ∨ k ∈ [key t] := fun k =>
            ⟨.inl, fun h => h.elim id fun hk => List.mem_singleton.mp hk ▸ hmem⟩
          rw [hstep _ rfl ht', List.cons_append]
        · exact hstep _ rfl (by simp [testedKeys, Arm.tested?, or_comm])

/-- One more arm is reported exactly if it is shadowed by all the others. -/
theorem unreachableArms_concat :
    unreachableArms key (arms ++ [arm]) =
      unreachableArms key arms ++ if Shadowed key arms arm then [arms.length] else [] := by
  have h : unreachableFrom key 0 [] (arms ++ [arm]) = unreachableFrom key 0 [] arms ++
      if Shadowed key ([] ++ arms) arm then [0 + arms.length] else [] :=
    unreachableFrom_concat (by simp) (by simp [testedKeys])
  rw [List.nil_append, Nat.zero_add] at h
  exact h

theorem unreachableArms_eq_filter :
    unreachableArms key arms =
      (List.range arms.length).filter fun i =>
        ∃ arm ∈ arms[i]?, Shadowed key (arms.take i) arm := by
  induction arms using List.reverseRecOn with
  | nil => rfl
  | append_singleton arms arm ih =>
    rw [unreachableArms_concat, ih, List.length_append, List.length_singleton, List.range_succ,
      List.filter_append]
    congr 1
    · -- the arms before the last one keep their numbers and what stands before them
      refine List.filter_congr fun i hi => ?_
      have hlt : i < arms.length := List.mem_range.mp hi
      rw [List.getElem?_append_left hlt, List.take_append_of_le_length hlt.le]
    · simp [List.filter_singleton]

theorem pairwise_unreachableArms : (unreachableArms key arms).Pairwise (· < ·) := by
  rw [unreachableArms_eq_filter]
  exact List.pairwise_lt_range.filter _

theorem lt_length_of_mem_unreachableArms (h : i ∈ unreachableArms key arms) : i < arms.length := by
  rw [unreachableArms_eq_filter] at h
  exact List.mem_range.mp (List.mem_filter.mp h).1

theorem mem_unreachableArms (ha : arms[i]? = some arm) :
    i ∈ unreachableArms key arms ↔ Shadowed key (arms.take i) arm := by
  have hlt : i < arms.length := (List.getElem?_eq_some_iff.mp ha).1
  rw [unreachableArms_eq_filter, List.mem_filter, List.mem_range, and_iff_right hlt, ha]
  simp

end

end MatchCover.Coverage

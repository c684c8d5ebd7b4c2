import MatchCover.Proofs.Coverage.Verdict

/-!
# Covered keys

`Covers` says that a discard or a test matches every value of a key. Verdict and note list are both
read off the first variants of each key that are not covered: `check_eq_ofMissing_uncovered` and
`literalOnly_eq_filter_uncovered`. So the notes are on those missing variants that a literal touches.
More arms leave those of the variants that the new arms do not cover (`uncovered_append`).
-/

namespace MatchCover.Coverage

variable {α β κ : Type}

/-- A discard, or a test for the key, matches every value of it. -/
def Covers (key : α → κ) (arms : List (Arm α)) (k : κ) : Prop :=
  .discard ∈ arms ∨ k ∈ testedKeys key arms

instance [DecidableEq κ] (key : α → κ) (arms : List (Arm α)) (k : κ) :
    Decidable (Covers key arms k) :=
  decidable_of_iff (arms.any Arm.isDiscard ∨ k ∈ testedKeys key arms)
    (or_congr_left any_isDiscard)

section
variable {key : α → κ} {arms added : List (Arm α)} {k : κ}

theorem testedKeys_append :
    testedKeys key (arms ++ added) = testedKeys key arms ++ testedKeys key added :=
  List.filterMap_append

theorem literalKeys_append :
    literalKeys key (arms ++ added) = literalKeys key arms ++ literalKeys key added :=
  List.filterMap_append

theorem covers_append : Covers key (arms ++ added) k ↔ Covers key arms k ∨ Covers key added k := by
  simp only [Covers, testedKeys_append, List.mem_append]
  tauto

theorem covers_singleton {arm : Arm α} :
    Covers key [arm] k ↔ arm = .discard ∨ ∃ t, arm = .typeTest (some t) ∧ key t = k := by
  simp only [Covers, mem_testedKeys, List.mem_singleton, eq_comm]

theorem Arm.literal?_eq_some_iff {arm : Arm α} :
    arm.literal? key = some k ↔ ∃ t, arm = literal (some t) ∧ key t = k := by
  rcases arm with _ | (_ | t) | t <;> simp [literal?]

theorem mem_literalKeys : k ∈ literalKeys key arms ↔ ∃ t, .literal (some t) ∈ arms ∧ key t = k := by
  simp only [literalKeys, List.mem_filterMap, Arm.literal?_eq_some_iff]
  constructor
  · rintro ⟨_, hm, t, rfl, ht⟩
    exact ⟨t, hm, ht⟩
  · rintro ⟨t, hm, ht⟩
    exact ⟨_, hm, t, rfl, ht⟩

theorem mem_literalKeys_singleton {arm : Arm α} :
    k ∈ literalKeys key [arm] ↔ ∃ t, arm = .literal (some t) ∧ key t = k := by
  simp only [mem_literalKeys, List.mem_singleton, eq_comm]

end

/-! ## The first variant of each key -/

section
variable [DecidableEq κ] {key : α → κ}

theorem firstOfEach_sublist (seen : List κ) (vs : List α) :
    (firstOfEach key seen vs).Sublist vs := by
  induction vs generalizing seen with
  | nil => exact .slnil
  | cons v vs ih =>
    rw [firstOfEach]
    split
    · exact (ih seen).cons v
    · exact (ih (key v :: seen)).cons_cons v

theorem key_notMem_seen {seen : List κ} {vs : List α} {v : α} (h : v ∈ firstOfEach key seen vs) :
    key v ∉ seen := by
  induction vs generalizing seen with
  | nil => cases h
  | cons w vs ih =>
    rw [firstOfEach] at h
    split at h
    · exact ih h
    · next hw =>
      rcases List.mem_cons.mp h with rfl | h
      · exact hw
      · exact fun hs => ih h (List.mem_cons_of_mem _ hs)

theorem nodup_map_key_firstOfEach (seen : List κ) (vs : List α) :
    ((firstOfEach key seen vs).map key).Nodup := by
  induction vs generalizing seen with
  | nil => exact .nil
  | cons v vs ih =>
    rw [firstOfEach]
    split
    · exact ih seen
    · refine List.nodup_cons.mpr ⟨fun h => ?_, ih (key v :: seen)⟩
      obtain ⟨w, hw, hk⟩ := List.mem_map.mp h
      exact key_notMem_seen hw (hk ▸ List.mem_cons_self)

/-- The first variant of a key stays the first when other keys are left out. Of the keys that are
left out it does not matter which were seen. -/
theorem firstOfEach_filter (p : κ → Prop) [DecidablePred p] {seen seen' : List κ}
    (hs : ∀ k, p k → (k ∈ seen ↔ k ∈ seen')) (vs : List α) :
    firstOfEach key seen (vs.filter (p <| key ·)) =
      (firstOfEach key seen' vs).filter (p <| key ·) := by
  induction vs generalizing seen seen' with
  | nil => rfl
  | cons v vs ih =>
    by_cases hp : p (key v)
    · rw [List.filter_cons_of_pos (by simpa using hp), firstOfEach, firstOfEach]
      by_cases hmem : key v ∈ seen
      · rw [if_pos hmem, if_pos ((hs _ hp).mp hmem), ih hs]
      · rw [if_neg hmem, if_neg (mt (hs _ hp).mpr hmem),
          List.filter_cons_of_pos (by simpa using hp), ih]
        intro k hk
        rw [List.mem_cons, List.mem_cons, hs k hk]
    · rw [List.filter_cons_of_neg (by simpa using hp), firstOfEach]
      split
      · exact ih hs
      · rw [List.filter_cons_of_neg (by simpa using hp)]
        refine ih fun k hk => ?_
        have hne : k ≠ key v := fun h => hp (h ▸ hk)
        rw [List.mem_cons, hs k hk, or_iff_right hne]

theorem firstOfEach_map (f : β → α) (seen : List κ) (vs : List β) :
    firstOfEach key seen (vs.map f) = (firstOfEach (key ∘ f) seen vs).map f := by
  induction vs generalizing seen with
  | nil => rfl
  | cons v vs ih =>
    by_cases h : key (f v) ∈ seen
    · simp [firstOfEach, h, ih]
    · simp [firstOfEach, h, ih]

/-! ## The variants that are not covered -/

variable {variants : List α} {arms added : List (Arm α)}

/-- The first variants of each key that the arms do not cover. -/
def uncovered (key : α → κ) (variants : List α) (arms : List (Arm α)) : List α :=
  (firstOfEach key [] variants).filter fun v => ¬ Covers key arms (key v)

theorem mem_uncovered {v : α} :
    v ∈ uncovered key variants arms ↔
      v ∈ firstOfEach key [] variants ∧ ¬ Covers key arms (key v) := by
  simp [uncovered]

theorem nodup_map_key_uncovered : ((uncovered key variants arms).map key).Nodup :=
  (nodup_map_key_firstOfEach [] variants).sublist (List.filter_sublist.map key)

theorem uncovered_append :
    uncovered key variants (arms ++ added) =
      (uncovered key variants arms).filter fun v => ¬ Covers key added (key v) := by
  rw [uncovered, uncovered, List.filter_filter]
  refine List.filter_congr fun v _ => ?_
  rw [← Bool.decide_and, decide_eq_decide, covers_append, not_or, and_comm]

theorem uncovered_congr {arms' : List (Arm α)} (h : ∀ k, Covers key arms k ↔ Covers key arms' k) :
    uncovered key variants arms = uncovered key variants arms' := by
  refine List.filter_congr fun v _ => ?_
  rw [decide_eq_decide, h]

theorem check_eq_ofMissing_uncovered :
    check key variants arms = .ofMissing (uncovered key variants arms) := by
  by_cases hd : .discard ∈ arms
  · have hnil : uncovered key variants arms = [] :=
      List.filter_eq_nil_iff.mpr fun v _ => by simp [Covers, hd]
    rw [check_of_discard hd, hnil, Verdict.ofMissing]
  · rw [check, if_neg (mt any_isDiscard.mp hd), uncovered,
      ← firstOfEach_filter (fun k => ¬ Covers key arms k) fun _ _ => Iff.rfl]
    simp only [Covers, hd, false_or]

theorem literalOnly_eq_filter_uncovered :
    literalOnly key variants arms =
      (uncovered key variants arms).filter (key · ∈ literalKeys key arms) := by
  by_cases hd : .discard ∈ arms
  · have hnil : uncovered key variants arms = [] :=
      List.filter_eq_nil_iff.mpr fun v _ => by simp [Covers, hd]
    rw [literalOnly, if_pos (any_isDiscard.mpr hd), hnil, List.filter_nil]
  · rw [literalOnly, if_neg (mt any_isDiscard.mp hd), uncovered, List.filter_filter,
      firstOfEach_filter (fun k => k ∈ literalKeys key arms ∧ k ∉ testedKeys key arms)
        fun _ _ => Iff.rfl]
    refine List.filter_congr fun v _ => ?_
    simp [Covers, hd]

theorem check_congr {arms' : List (Arm α)} (h : ∀ k, Covers key arms k ↔ Covers key arms' k) :
    check key variants arms = check key variants arms' := by
  rw [check_eq_ofMissing_uncovered, check_eq_ofMissing_uncovered, uncovered_congr h]

theorem literalOnly_congr {arms' : List (Arm α)}
    (h : ∀ k, Covers key arms k ↔ Covers key arms' k)
    (hl : ∀ k, ¬ Covers key arms k → (k ∈ literalKeys key arms ↔ k ∈ literalKeys key arms')) :
    literalOnly key variants arms = literalOnly key variants arms' := by
  rw [literalOnly_eq_filter_uncovered, literalOnly_eq_filter_uncovered, ← uncovered_congr h]
  refine List.filter_congr fun v hv => ?_
  rw [decide_eq_decide, hl _ (mem_uncovered.mp hv).2]

theorem check_eq_missing_iff {ms : List α} :
    check key variants arms = .missing ms ↔ uncovered key variants arms = ms ∧ ms ≠ [] := by
  rw [check_eq_ofMissing_uncovered]
  generalize uncovered key variants arms = vs
  cases vs with
  | nil => simp [Verdict.ofMissing]
  | cons v vs =>
    simp only [Verdict.ofMissing, Verdict.missing.injEq, iff_self_and]
    rintro rfl
    exact List.cons_ne_nil v vs

theorem missingVariants_check :
    (check key variants arms).missingVariants = uncovered key variants arms := by
  rw [check_eq_ofMissing_uncovered]
  cases uncovered key variants arms <;> rfl

theorem exists_mem_missingVariants_check :
    (∃ v, v ∈ (check key variants arms).missingVariants) ↔
      check key variants arms ≠ .exhaustive := by
  rw [missingVariants_check, check_eq_ofMissing_uncovered, ne_eq, Verdict.ofMissing_eq_exhaustive,
    List.eq_nil_iff_forall_not_mem]
  push Not
  exact Iff.rfl

end

/-! ## Notes on literals -/

/-- Some literal is of a type of the key. -/
def Touches (key : α → κ) (arms : List (Arm α)) (k : κ) : Prop :=
  ∃ t, .literal (some t) ∈ arms ∧ key t = k

instance [DecidableEq κ] (key : α → κ) (arms : List (Arm α)) (k : κ) :
    Decidable (Touches key arms k) :=
  decidable_of_iff (k ∈ literalKeys key arms) mem_literalKeys

/-- The notes are on those of the missing variants whose types literals touch. So no two of them are
of one key, and there are none in an exhaustive match. -/
theorem literalOnly_is_touched_part [DecidableEq κ] (key : α → κ) (variants : List α)
    (arms : List (Arm α)) :
    literalOnly key variants arms =
      (check key variants arms).missingVariants.filter (fun v => Touches key arms (key v)) ∧
    (literalOnly key variants arms).Sublist (check key variants arms).missingVariants ∧
    ((literalOnly key variants arms).map key).Nodup ∧
    (check key variants arms = .exhaustive → literalOnly key variants arms = []) := by
  have hpart : literalOnly key variants arms =
      (check key variants arms).missingVariants.filter fun v => Touches key arms (key v) := by
    rw [literalOnly_eq_filter_uncovered, missingVariants_check]
    refine List.filter_congr fun v _ => ?_
    rw [decide_eq_decide, mem_literalKeys, Touches]
  have hsublist : (literalOnly key variants arms).Sublist
      (check key variants arms).missingVariants := by
    rw [hpart]
    exact List.filter_sublist
  refine ⟨hpart, hsublist, ?_, fun hexhaustive => ?_⟩
  · have hnodup : ((check key variants arms).missingVariants.map key).Nodup := by
      rw [missingVariants_check]
      exact nodup_map_key_uncovered
    exact hnodup.sublist (hsublist.map key)
  · rw [hexhaustive, Verdict.missingVariants] at hsublist
    exact List.sublist_nil.mp hsublist

/-- A discard after the literal leaves nothing to note. -/
theorem literalOnly_is_touched_part_of_discard :
    ∃ arms : List (Arm (String × Bool)),
      arms = [.literal (some ("B", true)), .typeTest (some ("A", false)), .discard] ∧
      check Prod.fst [("A", true), ("B", false)] arms = .exhaustive ∧
      literalOnly Prod.fst [("A", true), ("B", false)] arms = [] := by
  refine ⟨_, rfl, by decide, ?_⟩
  exact (literalOnly_is_touched_part Prod.fst _ _).2.2.2 (by decide)

/-- Of two variants of one key the first is noted, as it is spelled. -/
example : literalOnly Prod.fst [("A", true), ("B", false), ("B", true), ("C", true)]
    [.literal (some ("B", true)), .literal (some ("A", true)), .typeTest (some ("A", false))] =
      [("B", false)] := by
  decide

end MatchCover.Coverage

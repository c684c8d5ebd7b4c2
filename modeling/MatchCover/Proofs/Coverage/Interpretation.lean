import Mathlib.Data.Set.Finite.Lattice
import Mathlib.Data.Fintype.EquivFin
import MatchCover.Coverage.Basic

/-!
# Interpretations of arms

A value is a key, which tells its type, with a payload, which tells it from the other values of
that type. The pattern of an arm does not say everything about the values it matches: of a literal
only the type is known, and of a pattern of unknown type nothing. An `Interpretation` fixes the
rest. `Matched` says that some arm matches a value, and `LeavesOpen` that under some interpretation
no arm does; `leavesOpen_iff` reads it off the patterns.
-/

namespace MatchCover.Coverage

/-- What the arms of a match, given by their numbers, leave open. -/
structure Interpretation (κ π : Type) where
  /-- The payload of the constant of a literal. -/
  payload : Nat → π
  /-- The values that a pattern of unknown type matches. -/
  unknown : Nat → Set (κ × π)

variable {α κ π : Type}

/-- The values that the arm of number `i` matches. -/
def Arm.Matches (key : α → κ) (I : Interpretation κ π) (i : Nat) : Arm α → κ × π → Prop
  | discard, _ => True
  | typeTest (some t), x => x.1 = key t
  | literal (some t), x => x = (key t, I.payload i)
  | typeTest none, x => x ∈ I.unknown i
  | literal none, x => x ∈ I.unknown i

def Matched (key : α → κ) (I : Interpretation κ π) (arms : List (Arm α)) (x : κ × π) : Prop :=
  ∃ (i : Nat) (arm : Arm α), arms[i]? = some arm ∧ arm.Matches key I i x

/-- Under some interpretation a value of the key is matched by no arm. -/
def LeavesOpen (π : Type) (key : α → κ) (arms : List (Arm α)) (k : κ) : Prop :=
  ∃ (I : Interpretation κ π) (p : π), ¬ Matched key I arms (k, p)

section
variable {key : α → κ} {I : Interpretation κ π} {arms : List (Arm α)} {k : κ} {p : π}

theorem any_isDiscard : arms.any Arm.isDiscard = true ↔ .discard ∈ arms := by
  rw [List.any_eq_true]
  constructor
  · rintro ⟨arm, hm, hd⟩
    cases arm with
    | discard => exact hm
    | literal t => cases hd
    | typeTest t => cases hd
  · intro hm
    exact ⟨.discard, hm, rfl⟩

theorem Arm.tested?_eq_some_iff {arm : Arm α} :
    arm.tested? key = some k ↔ ∃ t, arm = typeTest (some t) ∧ key t = k := by
  rcases arm with _ | t | (_ | t) <;> simp [tested?]

theorem mem_testedKeys : k ∈ testedKeys key arms ↔ ∃ t, .typeTest (some t) ∈ arms ∧ key t = k := by
  simp only [testedKeys, List.mem_filterMap, Arm.tested?_eq_some_iff]
  constructor
  · rintro ⟨_, hm, t, rfl, ht⟩
    exact ⟨t, hm, ht⟩
  · rintro ⟨t, hm, ht⟩
    exact ⟨_, hm, t, rfl, ht⟩

theorem matched_of_discard (h : .discard ∈ arms) (x : κ × π) : Matched key I arms x := by
  obtain ⟨i, hi⟩ := List.mem_iff_getElem?.mp h
  exact ⟨i, .discard, hi, trivial⟩

theorem matched_of_tested (h : k ∈ testedKeys key arms) (p : π) : Matched key I arms (k, p) := by
  obtain ⟨t, hm, ht⟩ := mem_testedKeys.mp h
  obtain ⟨i, hi⟩ := List.mem_iff_getElem?.mp hm
  exact ⟨i, .typeTest (some t), hi, ht.symm⟩

/-- Where patterns of unknown type match nothing, a value of an untested key is matched only by the
literal whose constant it is. -/
theorem payload_eq_of_matched {payload : Nat → π} (hd : .discard ∉ arms)
    (hk : k ∉ testedKeys key arms) (h : Matched key ⟨payload, fun _ => ∅⟩ arms (k, p)) :
    ∃ i < arms.length, payload i = p := by
  obtain ⟨i, arm, hi, hm⟩ := h
  have hlt : i < arms.length := (List.getElem?_eq_some_iff.mp hi).1
  have hmem : arm ∈ arms := List.mem_of_getElem? hi
  cases arm with
  | discard => exact absurd hmem hd
  | literal t =>
    cases t with
    | none => exact hm.elim
    | some t => exact ⟨i, hlt, ((Prod.ext_iff.mp hm).2).symm⟩
  | typeTest t =>
    cases t with
    | none => exact hm.elim
    | some t => exact absurd (mem_testedKeys.mpr ⟨t, hmem, Eq.symm hm⟩) hk

/-- Whatever the constants of the literals are, they are too few for all values of a key. -/
theorem exists_not_matched [Infinite π] (payload : Nat → π) (hd : .discard ∉ arms)
    (hk : k ∉ testedKeys key arms) : ∃ p, ¬ Matched key ⟨payload, fun _ => ∅⟩ arms (k, p) := by
  have hfin : (payload '' {i | i < arms.length}).Finite := (Set.finite_lt_nat _).image _
  obtain ⟨p, hp⟩ := hfin.exists_notMem
  refine ⟨p, fun h => hp ?_⟩
  obtain ⟨i, hi, rfl⟩ := payload_eq_of_matched hd hk h
  exact ⟨i, hi, rfl⟩

theorem leavesOpen_iff [Infinite π] :
    LeavesOpen π key arms k ↔ .discard ∉ arms ∧ k ∉ testedKeys key arms := by
  constructor
  · rintro ⟨I, p, hn⟩
    exact ⟨fun hd => hn (matched_of_discard hd _), fun hk => hn (matched_of_tested hk p)⟩
  · rintro ⟨hd, hk⟩
    obtain ⟨p, hp⟩ := exists_not_matched (fun _ => Classical.arbitrary π) hd hk
    exact ⟨_, p, hp⟩

end

end MatchCover.Coverage

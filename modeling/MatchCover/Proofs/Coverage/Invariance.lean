import Mathlib.Data.Fin.VecNotation
import MatchCover.Alias.Environment
import MatchCover.Proofs.Coverage.Covering

/-!
# What the report depends on

Of the types of arms and variants only the keys count, and for coverage neither the order nor the
repetition of arms does. Arms enter with their types replaced by keys (`analyze_congr`). Variants
are selected by their positions: `uncovered_ofFn` gives the positions of the missing ones, which the
keys alone decide.
-/

namespace MatchCover.Coverage

variable {α β κ : Type}

def Arm.mapType (f : α → β) : Arm α → Arm β
  | discard => discard
  | literal t => literal (t.map f)
  | typeTest t => typeTest (t.map f)

/-! ## What the arms say of keys -/

section
variable {key : α → κ} {arms arms' : List (Arm α)} {k : κ}

theorem discard_mem_map_mapType : .discard ∈ arms.map (Arm.mapType key) ↔ .discard ∈ arms := by
  rw [List.mem_map]
  constructor
  · rintro ⟨arm, hm, h⟩
    cases arm with
    | discard => exact hm
    | literal t => cases h
    | typeTest t => cases h
  · intro hm
    exact ⟨.discard, hm, rfl⟩

theorem testedKeys_map_mapType :
    testedKeys id (arms.map (Arm.mapType key)) = testedKeys key arms := by
  rw [testedKeys, testedKeys, List.filterMap_map]
  refine List.filterMap_congr fun arm _ => ?_
  rcases arm with _ | t | (_ | t) <;> rfl

theorem literalKeys_map_mapType :
    literalKeys id (arms.map (Arm.mapType key)) = literalKeys key arms := by
  rw [literalKeys, literalKeys, List.filterMap_map]
  refine List.filterMap_congr fun arm _ => ?_
  rcases arm with _ | (_ | t) | t <;> rfl

theorem covers_map_mapType : Covers id (arms.map (Arm.mapType key)) k ↔ Covers key arms k := by
  rw [Covers, Covers, discard_mem_map_mapType, testedKeys_map_mapType]

/-- Order and repetition of the arms do not matter for the keys that they cover. -/
theorem covers_congr_of_mem (h : ∀ arm, arm ∈ arms ↔ arm ∈ arms') (k : κ) :
    Covers key arms k ↔ Covers key arms' k := by
  simp only [Covers, mem_testedKeys, h]

theorem mem_literalKeys_congr_of_mem (h : ∀ arm, arm ∈ arms ↔ arm ∈ arms') (k : κ) :
    k ∈ literalKeys key arms ↔ k ∈ literalKeys key arms' := by
  simp only [literalKeys, List.mem_filterMap, h]

theorem unreachableFrom_map_mapType [DecidableEq κ] (index : Nat) (tested : List κ) :
    unreachableFrom id index tested (arms.map (Arm.mapType key)) =
      unreachableFrom key index tested arms := by
  induction arms generalizing index tested with
  | nil => rfl
  | cons arm arms ih =>
    rcases arm with _ | (_ | t) | (_ | t)
    · simp [Arm.mapType, unreachableFrom]
    all_goals simp [Arm.mapType, unreachableFrom, ih]

end

/-! ## The report on respelled arms -/

section
variable [DecidableEq κ] {key : α → κ} {variants : List α} {arms arms' : List (Arm α)}

theorem analyze_congr (h : arms.map (Arm.mapType key) = arms'.map (Arm.mapType key)) :
    analyze key variants arms = analyze key variants arms' := by
  have hcovers : ∀ k, Covers key arms k ↔ Covers key arms' k := fun k => by
    rw [← covers_map_mapType, h, covers_map_mapType]
  have hliteral : literalKeys key arms = literalKeys key arms' := by
    rw [← literalKeys_map_mapType, h, literalKeys_map_mapType]
  have hunreachable : unreachableArms key arms = unreachableArms key arms' := by
    rw [unreachableArms, ← unreachableFrom_map_mapType, h, unreachableFrom_map_mapType,
      unreachableArms]
  rw [analyze, analyze, check_congr hcovers, hunreachable,
    literalOnly_congr hcovers fun k _ => by rw [hliteral]]

end

/-! ## Positions of variants -/

section
variable [DecidableEq κ] {n : Nat}

/-- Of variants whose keys are `keys`, the positions of the first of each key that the arms leave
uncovered. -/
def uncoveredAt (key : α → κ) (arms : List (Arm α)) (keys : Fin n → κ) : List (Fin n) :=
  (firstOfEach keys [] (List.finRange n)).filter fun i => ¬ Covers key arms (keys i)

variable {key : α → κ} {arms : List (Arm α)} {keys : Fin n → κ}

theorem uncovered_ofFn (v : Fin n → α) :
    uncovered key (List.ofFn v) arms = (uncoveredAt key arms (key ∘ v)).map v := by
  rw [uncovered, List.ofFn_eq_map, firstOfEach_map, List.filter_map]
  rfl

theorem literalOnly_ofFn (v : Fin n → α) :
    literalOnly key (List.ofFn v) arms =
      ((uncoveredAt key arms (key ∘ v)).filter fun i => key (v i) ∈ literalKeys key arms).map v := by
  rw [literalOnly_eq_filter_uncovered, uncovered_ofFn, List.filter_map]
  rfl

theorem pairwise_uncoveredAt : (uncoveredAt key arms keys).Pairwise (· < ·) :=
  ((List.pairwise_lt_finRange n).sublist (firstOfEach_sublist [] _)).filter _

/-- Of positions in order, one that is kept is the first with its key. -/
theorem key_ne_of_mem_firstOfEach {seen : List κ} {is : List (Fin n)} (his : is.Pairwise (· < ·))
    {i j : Fin n} (hi : i ∈ firstOfEach keys seen is) (hj : j ∈ is) (hlt : j < i) :
    keys j ≠ keys i := by
  induction is generalizing seen with
  | nil => cases hj
  | cons p is ih =>
    rw [List.pairwise_cons] at his
    rw [firstOfEach] at hi
    split at hi
    · next hp =>
      rcases List.mem_cons.mp hj with rfl | hj
      · exact fun heq => key_notMem_seen hi (heq ▸ hp)
      · exact ih his.2 hi hj
    · rcases List.mem_cons.mp hi with rfl | hi
      · rcases List.mem_cons.mp hj with rfl | hj
        · exact absurd hlt (lt_irrefl _)
        · exact absurd hlt (his.1 j hj).asymm
      · rcases List.mem_cons.mp hj with rfl | hj
        · exact fun heq => key_notMem_seen hi (heq ▸ List.mem_cons_self)
        · exact ih his.2 hi hj

theorem key_ne_of_mem_uncoveredAt {i j : Fin n} (hi : i ∈ uncoveredAt key arms keys) (hlt : j < i) :
    keys j ≠ keys i :=
  key_ne_of_mem_firstOfEach (List.pairwise_lt_finRange n) (List.mem_filter.mp hi).1
    (List.mem_finRange j) hlt

end

/-! ## Keys, order and repetition -/

/-- Types of one key can stand for each other in the arms. Variants of one key can do so in the
declaration: at the same positions, each the first of its key, they are missing or noted for a
literal, and the same arms are unreachable. Verdict and notes depend on which arms there are, not on
their order or repetition. -/
theorem analyze_depends_on_keys [DecidableEq κ] (key : α → κ) (arms : List (Arm α)) :
    (∀ (variants : List α) (arms' : List (Arm α)),
      arms'.map (Arm.mapType key) = arms.map (Arm.mapType key) →
      analyze key variants arms' = analyze key variants arms) ∧
    (∀ (n : Nat) (v w : Fin n → α), (∀ i, key (v i) = key (w i)) →
      ∃ missing noted : List (Fin n), missing.Pairwise (· < ·) ∧ noted.Pairwise (· < ·) ∧
        (∀ i ∈ missing ++ noted, ∀ j < i, key (v j) ≠ key (v i)) ∧
        analyze key (List.ofFn v) arms =
          ⟨.ofMissing (missing.map v), unreachableArms key arms, noted.map v⟩ ∧
        analyze key (List.ofFn w) arms =
          ⟨.ofMissing (missing.map w), unreachableArms key arms, noted.map w⟩) ∧
    (∀ (variants : List α) (arms' : List (Arm α)), (∀ arm, arm ∈ arms' ↔ arm ∈ arms) →
      check key variants arms' = check key variants arms ∧
      literalOnly key variants arms' = literalOnly key variants arms) := by
  refine ⟨fun variants arms' h => analyze_congr h, fun n v w h => ?_, fun variants arms' h => ?_⟩
  · obtain hkeys : key ∘ v = key ∘ w := funext h
    refine ⟨uncoveredAt key arms (key ∘ v),
      (uncoveredAt key arms (key ∘ v)).filter fun i => key (v i) ∈ literalKeys key arms,
      pairwise_uncoveredAt, pairwise_uncoveredAt.filter _, fun i hi j hlt => ?_, ?_, ?_⟩
    · have hmem : i ∈ uncoveredAt key arms (key ∘ v) :=
        (List.mem_append.mp hi).elim id fun hi => (List.mem_filter.mp hi).1
      exact key_ne_of_mem_uncoveredAt hmem hlt
    · rw [analyze, check_eq_ofMissing_uncovered, uncovered_ofFn, literalOnly_ofFn]
    · rw [analyze, check_eq_ofMissing_uncovered, uncovered_ofFn, literalOnly_ofFn, hkeys]
      simp only [h]
  · have hcovers : ∀ k, Covers key arms' k ↔ Covers key arms k := covers_congr_of_mem h
    exact ⟨check_congr hcovers,
      literalOnly_congr hcovers fun k _ => mem_literalKeys_congr_of_mem h k⟩

/-- With `int` for `Int32` and without nullability: the arms are spelled in another way, then the
variants, then the arms are turned round and one is repeated. -/
theorem analyze_depends_on_keys_of_aliases :
    ∃ (env : Environment) (arms : List (Arm TypeRef)),
      Environment.ofAliases [("int", .named "Int32")] true = .ok env ∧
      arms = [.literal (some (.named "int")), .typeTest (some (.named "B"))] ∧
      analyze env.canonical [.named "Int32", .named "B"]
          [.literal (some (.named "Int32")), .typeTest (some ⟨"B", [], true⟩)] =
        analyze env.canonical [.named "Int32", .named "B"] arms ∧
      (∃ missing : List (Fin 3),
        check env.canonical [.named "B", .named "int", .named "Int32"] arms =
          .ofMissing (missing.map ![.named "B", .named "int", .named "Int32"]) ∧
        check env.canonical [.named "B", ⟨"Int32", [], true⟩, .named "int"] arms =
          .ofMissing (missing.map ![.named "B", ⟨"Int32", [], true⟩, .named "int"])) ∧
      literalOnly env.canonical [.named "Int32", .named "B"]
          [.typeTest (some (.named "B")), .literal (some (.named "int")),
            .typeTest (some (.named "B"))] =
        literalOnly env.canonical [.named "Int32", .named "B"] arms := by
  let env : Environment := ⟨[("int", .named "Int32")], true⟩
  let arms : List (Arm TypeRef) := [.literal (some (.named "int")), .typeTest (some (.named "B"))]
  refine ⟨env, arms, by cbv, rfl, ?_, ?_, ?_⟩
  · exact (analyze_depends_on_keys env.canonical arms).1 _ _ (by decide)
  · obtain ⟨missing, _, -, -, -, hv, hw⟩ := (analyze_depends_on_keys env.canonical arms).2.1 3
      ![.named "B", .named "int", .named "Int32"] ![.named "B", ⟨"Int32", [], true⟩, .named "int"]
      (by decide)
    exact ⟨missing, congrArg Report.verdict hv, congrArg Report.verdict hw⟩
  · refine ((analyze_depends_on_keys env.canonical arms).2.2 _ _ fun arm => ?_).2
    simp only [arms, List.mem_cons, List.not_mem_nil]
    tauto

end MatchCover.Coverage

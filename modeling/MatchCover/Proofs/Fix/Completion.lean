import MatchCover.Analysis
import MatchCover.Proofs.Coverage.Completion
import MatchCover.Proofs.Fix.FreshNames

/-!
# Suggested fixes complete the match

The fix for the missing variants adds just what is needed. The arms it shows are those for the
missing variants, in their order and with the bindings found for them; tests for these variants make
the match exhaustive, none can be left out, and no arm becomes unreachable. So does a discard.
-/

namespace MatchCover.Fix

open Binding (namesFor)
open Coverage (Arm analyze tests)

variable {κ : Type}

theorem suggest_of_discard {m : MatchExpr} {missing : List TypeRef} {style : FixStyle}
    (h : style.prefer = .discard) : (suggest m missing style).action = .addDiscardArm := by
  simp [suggest, h]

/-- The fix for the missing variants of a match either carries just these, with one arm text for
each in their order that shows the variant and the binding found for it, or is a discard. Tests for
the missing variants, in any order, make the match exhaustive and leave nothing to note; without the
test for one of them that variant stays missing. A discard does the same for all of them. In both
cases the same arms are unreachable as before. -/
theorem suggest_completes_match [DecidableEq κ] (key : TypeRef → κ) (m : MatchExpr)
    (style : FixStyle) (variants missing : List TypeRef) (arms : List (Arm TypeRef))
    (h : (analyze key variants arms).verdict = .missing missing) :
    (style.prefer = .arms →
      (suggest m missing style).action = .addVariantArms missing ∧
      (suggest m missing style).arms.length = missing.length ∧
      List.Forall₂ (fun p text => IsArmText style.armTemplate p.1 p.2 text)
        (missing.zip (namesFor (boundNames m) missing)) (suggest m missing style).arms ∧
      (∀ added, added.Perm missing → analyze key variants (arms ++ tests added) =
        ⟨.exhaustive, (analyze key variants arms).unreachable, []⟩) ∧
      ∀ t rest, (t :: rest).Perm missing →
        (analyze key variants (arms ++ tests rest)).verdict = .missing [t]) ∧
    (style.prefer = .discard →
      (suggest m missing style).action = .addDiscardArm ∧
      analyze key variants (arms ++ [.discard]) =
        ⟨.exhaustive, (analyze key variants arms).unreachable, []⟩) := by
  constructor
  · intro hs
    obtain ⟨haction, harms⟩ := suggest_of_arms hs
    refine ⟨haction, ?_, ?_, ?_, ?_⟩
    · rw [harms, length_variantArms]
    · rw [harms]
      exact forall₂_variantArms m missing style.armTemplate
    · intro added hp
      exact Coverage.analyze_append_tests h hp
    · intro t rest hp
      exact Coverage.check_append_tests_cons h hp
  · intro hs
    refine ⟨suggest_of_discard hs, ?_⟩
    exact Coverage.analyze_append_discard (Coverage.discard_notMem_of_missing h)

/-- A literal touches `B`, which is declared twice, and `A` is tested for twice. -/
theorem suggest_completes_match_of_literal :
    ∃ (m : MatchExpr) (key : TypeRef → TypeRef) (variants missing : List TypeRef)
        (arms : List (Arm TypeRef)),
      m.arms = [⟨.typeTest (some (.named "A")) (some "a"), none, none⟩,
        ⟨.literal (.string "x") (some (.named "B")), none, none⟩,
        ⟨.typeTest (some ⟨"A", [], true⟩) none, none, none⟩] ∧
      arms = m.arms.map (·.pattern.coverageArm) ∧
      key = Environment.canonical ⟨[], true⟩ ∧
      variants = [.named "A", ⟨"B", [], true⟩, .named "B", .named "C"] ∧
      missing = [⟨"B", [], true⟩, .named "C"] ∧
      analyze key variants arms = ⟨.missing missing, [2], [⟨"B", [], true⟩]⟩ ∧
      (suggest m missing {}).action = .addVariantArms missing ∧
      (suggest m missing {}).arms = ["B? b => todo", "C c => todo"] ∧
      analyze key variants (arms ++ tests missing.reverse) = ⟨.exhaustive, [2], []⟩ ∧
      (analyze key variants (arms ++ tests [.named "C"])).verdict = .missing [⟨"B", [], true⟩] ∧
      analyze key variants (arms ++ [.discard]) = ⟨.exhaustive, [2], []⟩ := by
  let m : MatchExpr := ⟨.named "AOrBOrC", none,
    [⟨.typeTest (some (.named "A")) (some "a"), none, none⟩,
      ⟨.literal (.string "x") (some (.named "B")), none, none⟩,
      ⟨.typeTest (some ⟨"A", [], true⟩) none, none, none⟩], none⟩
  refine ⟨m, Environment.canonical ⟨[], true⟩,
    [.named "A", ⟨"B", [], true⟩, .named "B", .named "C"], [⟨"B", [], true⟩, .named "C"],
    m.arms.map (·.pattern.coverageArm), rfl, rfl, rfl, rfl, rfl, by decide, ?_⟩
  have harms := (suggest_completes_match (Environment.canonical ⟨[], true⟩) m {}
    [.named "A", ⟨"B", [], true⟩, .named "B", .named "C"] [⟨"B", [], true⟩, .named "C"]
    (m.arms.map (·.pattern.coverageArm)) (by decide)).1 rfl
  have hdiscard := (suggest_completes_match (Environment.canonical ⟨[], true⟩) m ⟨.discard, "_"⟩
    [.named "A", ⟨"B", [], true⟩, .named "B", .named "C"] [⟨"B", [], true⟩, .named "C"]
    (m.arms.map (·.pattern.coverageArm)) (by decide)).2 rfl
  have hreported : (analyze (Environment.canonical ⟨[], true⟩)
      [.named "A", ⟨"B", [], true⟩, .named "B", .named "C"]
      (m.arms.map (·.pattern.coverageArm))).unreachable = [2] := by decide
  rw [hreported] at harms hdiscard
  obtain ⟨haction, -, -, hadded, hleft⟩ := harms
  exact ⟨haction, by decide +kernel, hadded _ (List.reverse_perm _), hleft _ _ (List.Perm.refl _),
    hdiscard.2⟩

end MatchCover.Fix

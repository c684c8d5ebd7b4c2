import MatchCover.Proofs.Alias.Termination
import MatchCover.Proofs.Coverage.Merging
import MatchCover.Proofs.Union.Declarations

/-!
# Ignored nullability

The canonical forms that ignore nullability are those that keep it, with the nullable marks removed.
So ignoring it merges types and tells none apart: no more variants are missing, no fewer arms are
unreachable, and declarations that are accepted then are accepted in any case
(`ignoring_nullability_merges`).
-/

namespace MatchCover

variable {table : AliasTable}

namespace Environment

open TypeRef (withoutNullable withoutNullable_mk withoutNullable_orNullable)

/-- A step that ignores nullability does what one that keeps it does, less the marks. -/
theorem canonicalStep_ignoring (f : TypeRef → TypeRef) (t : TypeRef) :
    canonicalStep ⟨table, true⟩ (withoutNullable ∘ f) t =
      (canonicalStep ⟨table, false⟩ f t).withoutNullable := by
  obtain ⟨n, args, b⟩ := t
  by_cases hargs : args = []
  · subst hargs
    cases ht : table.target? n with
    | none =>
      rw [canonicalStep_of_name ht, canonicalStep_of_name ht]
      simp [unmark, withoutNullable_mk]
    | some target =>
      rw [canonicalStep_of_alias ht, canonicalStep_of_alias ht, Function.comp_apply]
      cases f target
      simp [unmark, withoutNullable_mk, TypeRef.orNullable]
  · rw [canonicalStep_of_args hargs, canonicalStep_of_args hargs]
    simp [unmark, withoutNullable_mk]

theorem canonical_ignoring (hac : table.Acyclic) :
    canonical ⟨table, true⟩ = withoutNullable ∘ canonical ⟨table, false⟩ := by
  have hkept := @canonical_eq_step ⟨table, false⟩ hac
  -- what the recursion gives without marks obeys the recursion that ignores them
  refine ((@step_iff_eq_canonical ⟨table, true⟩ _ hac).mp fun t => ?_).symm
  rw [canonicalStep_ignoring, ← hkept, Function.comp_apply]

end Environment

/-- Variants that differ without their marks differ with them. -/
theorem UnionDecl.repeatedVariant?_keeping (hac : table.Acyclic) {variants : List TypeRef}
    (h : repeatedVariant? ⟨table, true⟩ [] variants = none) :
    repeatedVariant? ⟨table, false⟩ [] variants = none := by
  rw [repeatedVariant?_eq_none_iff] at h ⊢
  obtain ⟨-, hnd⟩ := h
  rw [Environment.canonical_ignoring hac, ← List.map_map] at hnd
  exact ⟨by simp, hnd.of_map⟩

theorem Registry.ofDecls_keeping (hac : table.Acyclic) {generic : List String}
    {decls : List UnionDecl} {r : Registry} (h : ofDecls generic decls ⟨table, true⟩ = .ok r) :
    ofDecls generic decls ⟨table, false⟩ = .ok r := by
  rw [ofDecls_eq_ok_iff] at h ⊢
  obtain ⟨hdecls, hnd, hr⟩ := h
  refine ⟨fun d hd => ?_, hnd, hr⟩
  obtain ⟨hvariants, hrepeated⟩ := hdecls d hd
  exact ⟨hvariants, UnionDecl.repeatedVariant?_keeping hac hrepeated⟩

open Coverage in
/-- Whether aliases are accepted does not depend on nullability. Where it is ignored, canonical
forms are the ones that keep it without any marks; the missing variants are among those that are
missing where it is kept, in their order, all arms that are unreachable there are unreachable here,
and what is accepted as declarations here is accepted there. -/
theorem ignoring_nullability_merges (table : AliasTable) :
    (∀ e, Environment.ofAliases table true = .error e ↔
      Environment.ofAliases table false = .error e) ∧
    ∀ kept ignored, Environment.ofAliases table false = .ok kept →
      Environment.ofAliases table true = .ok ignored →
      (∀ t, ignored.canonical t = (kept.canonical t).withoutNullable) ∧
      (∀ variants arms,
        (check ignored.canonical variants arms).missingVariants.Sublist
          (check kept.canonical variants arms).missingVariants) ∧
      (∀ arms, ∀ i ∈ unreachableArms kept.canonical arms,
        i ∈ unreachableArms ignored.canonical arms) ∧
      ∀ generic decls r, Registry.ofDecls generic decls ignored = .ok r →
        Registry.ofDecls generic decls kept = .ok r := by
  refine ⟨fun e => ?_, fun kept ignored hkept hignored => ?_⟩
  · rw [Environment.ofAliases_eq_error_iff, Environment.ofAliases_eq_error_iff]
  obtain ⟨hac, rfl⟩ := Environment.ofAliases_eq_ok_iff.mp hkept
  obtain ⟨-, rfl⟩ := Environment.ofAliases_eq_ok_iff.mp hignored
  rw [Environment.canonical_ignoring hac]
  refine ⟨fun t => rfl, fun variants arms => ?_, fun arms => ?_, fun generic decls r hr => ?_⟩
  · exact missingVariants_merge_sublist TypeRef.withoutNullable variants
  · exact (unreachableArms_merge_sublist TypeRef.withoutNullable).subset
  · exact Registry.ofDecls_keeping hac hr

open Coverage in
/-- `MaybeName` stands for a type that may be null. Without nullability its arm covers the plain type
too, and the test for that comes too late. -/
theorem ignoring_nullability_merges_of_alias :
    ∃ kept ignored, Environment.ofAliases [("MaybeName", ⟨"string", [], true⟩)] false = .ok kept ∧
      Environment.ofAliases [("MaybeName", ⟨"string", [], true⟩)] true = .ok ignored ∧
      ignored.canonical ⟨"List", [.named "MaybeName"], true⟩ =
        (kept.canonical ⟨"List", [.named "MaybeName"], true⟩).withoutNullable ∧
      (check ignored.canonical [.named "string", ⟨"string", [], true⟩, .named "int"]
          [.typeTest (some (.named "MaybeName"))]).missingVariants.Sublist
        (check kept.canonical [.named "string", ⟨"string", [], true⟩, .named "int"]
          [.typeTest (some (.named "MaybeName"))]).missingVariants ∧
      (check ignored.canonical [.named "string", ⟨"string", [], true⟩, .named "int"]
        [.typeTest (some (.named "MaybeName"))]).missingVariants = [.named "int"] ∧
      unreachableArms kept.canonical [.typeTest (some (.named "MaybeName")),
        .typeTest (some (.named "string")), .literal (some ⟨"string", [], true⟩)] = [2] ∧
      2 ∈ unreachableArms ignored.canonical [.typeTest (some (.named "MaybeName")),
        .typeTest (some (.named "string")), .literal (some ⟨"string", [], true⟩)] ∧
      Registry.ofDecls [] [⟨"U", [.named "MaybeName", .named "int"], none⟩] kept =
        .ok ⟨[], [⟨"U", [.named "MaybeName", .named "int"], none⟩]⟩ := by
  have hkept : Environment.ofAliases [("MaybeName", ⟨"string", [], true⟩)] false =
      .ok ⟨[("MaybeName", ⟨"string", [], true⟩)], false⟩ := by cbv
  have hignored : Environment.ofAliases [("MaybeName", ⟨"string", [], true⟩)] true =
      .ok ⟨[("MaybeName", ⟨"string", [], true⟩)], true⟩ := by cbv
  obtain ⟨hcanonical, hmissing, hunreachable, hdecls⟩ :=
    (ignoring_nullability_merges _).2 _ _ hkept hignored
  exact ⟨_, _, hkept, hignored, hcanonical _, hmissing _ _, by decide, by decide,
    hunreachable _ _ (by decide), hdecls _ _ _ (by cbv)⟩

end MatchCover

import MatchCover.Proofs.Analysis.Diagnostics
import MatchCover.Proofs.Union.Recognition

/-!
# Unions by name and by type

A match can be over a declared union in two ways: it names the union, or its type is the union. The
first way looks the name up as it is, the second looks for the canonical form of the type. So both
find the declaration as long as its name is no alias; an alias of that name hides the declaration
from the types (`declared_union_by_name_and_type`).
-/

namespace MatchCover

variable {config : Config} {d : Document} {a : Analyzer} {u : UnionDecl} {arms : List MatchArm}
  {span : Option Span}

/-! ## Names that are no aliases -/

namespace AliasTable

theorem target?_eq_none_iff {table : AliasTable} {n : String} :
    table.target? n = none ↔ ∀ b ∈ table, b.1 ≠ n := by
  rw [← Option.not_isSome_iff_eq_none, isSome_target?, List.mem_map]
  push Not
  exact Iff.rfl

end AliasTable

namespace Registry

variable {env : Environment} {r : Registry} {s : TypeRef}

/-- A name, whether an alias or not, is the union that its canonical form is. -/
theorem variants_resolve_canonical (hac : env.aliases.Acyclic) (hargs : s.args = [])
    (hs : ¬ env.NamesOwnHead s) :
    (r.resolve env s).map (·.variants) = (r.resolve env (env.canonical s)).map (·.variants) := by
  have hcanonical := Environment.canonical_canonical hac s
  by_cases h : (env.canonical s).args = []
  · rw [resolve_of_name h, resolve_of_name (by rwa [hcanonical]), hcanonical, Option.map_map,
      Option.map_map]
    rfl
  · have hname : s.name ≠ (env.canonical s).name := fun hname => hs ⟨hargs, h, hname.symm⟩
    rw [resolve_of_args h, resolve_of_args (by rwa [hcanonical]), hcanonical, if_neg hname,
      if_pos rfl]
    split <;> rfl

end Registry

namespace Analyzer

/-- A match with these arms over a type is one over a union with these variants, and this is what
the check finds out about it. -/
def ReportsByType (a : Analyzer) (arms : List MatchArm) (span : Option Span) (t : TypeRef)
    (variants : List TypeRef) (r : Coverage.Report TypeRef) : Prop :=
  a.report ⟨t, none, arms, span⟩ = .ok (some (⟨t, variants⟩, r))

variable {t : TypeRef} {variants : List TypeRef} {r : Coverage.Report TypeRef}

theorem type_of_resolve {registry : Registry} {env : Environment} {v : UnionType}
    (h : registry.resolve env t = some v) : v.type = t := by
  by_cases hargs : (env.canonical t).args = []
  · rw [Registry.resolve_of_name hargs] at h
    obtain ⟨_, -, rfl⟩ := Option.map_eq_some_iff.mp h
    rfl
  · rw [Registry.resolve_of_args hargs] at h
    split at h
    · cases h
      rfl
    · cases h

theorem reportsByType_iff : a.ReportsByType arms span t variants r ↔ arms ≠ [] ∧
    (a.registry.resolve a.env t).map (·.variants) = some variants ∧
    r = Coverage.analyze a.env.canonical variants (arms.map (·.pattern.coverageArm)) := by
  have hunion : a.unionOf ⟨t, none, arms, span⟩ = .ok (a.registry.resolve a.env t) := rfl
  rw [ReportsByType, report_eq_some_iff, hunion, Except.ok.injEq, Option.map_eq_some_iff]
  refine and_congr_right fun _ => and_congr_left fun _ => ?_
  constructor
  · intro h
    exact ⟨_, h, rfl⟩
  · rintro ⟨v, hv, rfl⟩
    obtain rfl := type_of_resolve hv
    exact hv

theorem report_by_name (h : a.registry.find? u.name = some u) (harms : arms ≠ []) (t : TypeRef) :
    a.report ⟨t, some u.name, arms, span⟩ = .ok (some (⟨t, u.variants⟩,
      Coverage.analyze a.env.canonical u.variants (arms.map (·.pattern.coverageArm)))) := by
  rw [report_eq_some_iff]
  refine ⟨harms, ?_, rfl⟩
  simp only [unionOf, Registry.lookup, h]
  rfl

theorem find?_of_ofDocument (h : ofDocument config d = .ok a) (hu : u ∈ d.unions) :
    a.registry.find? u.name = some u := by
  obtain ⟨-, -, hregistry, -⟩ := ofDocument_eq_ok_iff.mp h
  obtain ⟨-, hnd, hr⟩ := Registry.ofDecls_eq_ok_iff.mp hregistry
  have hdeclared : a.registry.declared = d.unions := by rw [hr]
  rw [Registry.find?_eq_some_iff (by rwa [hdeclared]), hdeclared]
  exact ⟨hu, rfl⟩

theorem canonical_named_of_ofDocument (h : ofDocument config d = .ok a)
    (hconfig : ∀ b ∈ config.aliases, b.1 ≠ u.name) (hd : ∀ b ∈ d.aliases, b.name ≠ u.name) :
    a.env.canonical (.named u.name) = .named u.name := by
  obtain ⟨-, henv, -, -⟩ := ofDocument_eq_ok_iff.mp h
  obtain ⟨-, henv⟩ := Environment.ofAliases_eq_ok_iff.mp henv
  have htarget : a.env.aliases.target? u.name = none := by
    rw [henv, AliasTable.target?_eq_none_iff, List.forall_mem_append, List.forall_mem_map]
    exact ⟨hconfig, hd⟩
  rw [TypeRef.named, Environment.canonical_of_name htarget, Environment.mark, Bool.false_and]

/-- A match that names a declared union is over its variants. If no alias bears that name, so is the
match over the type of that name, and the check finds out the same about both. Where an alias makes
another name of it, the type is taken for what it is an alias of. -/
theorem declared_union_by_name_and_type (h : ofDocument config d = .ok a) (hu : u ∈ d.unions)
    (harms : arms ≠ []) (t : TypeRef) (span span' : Option Span) :
    ∃ r, a.report ⟨t, some u.name, arms, span⟩ = .ok (some (⟨t, u.variants⟩, r)) ∧
      ((∀ b ∈ config.aliases, b.1 ≠ u.name) → (∀ b ∈ d.aliases, b.name ≠ u.name) →
        a.ReportsByType arms span' (.named u.name) u.variants r) ∧
      ((a.env.canonical (.named u.name)).name ≠ u.name → ∀ variants r',
        a.ReportsByType arms span' (.named u.name) variants r' ↔
          a.ReportsByType arms span' (a.env.canonical (.named u.name)) variants r') := by
  have hfind := find?_of_ofDocument h hu
  refine ⟨_, report_by_name hfind harms t, fun hconfig hd => ?_, fun hname variants r' => ?_⟩
  · have hcanonical := canonical_named_of_ofDocument h hconfig hd
    rw [reportsByType_iff, Registry.resolve_of_name (by rw [hcanonical]; rfl), hcanonical]
    refine ⟨harms, ?_, rfl⟩
    rw [TypeRef.named, hfind, Option.map_some, Option.map_some]
  · obtain ⟨-, henv, -, -⟩ := ofDocument_eq_ok_iff.mp h
    obtain ⟨hac, henv⟩ := Environment.ofAliases_eq_ok_iff.mp henv
    have hown : ¬ a.env.NamesOwnHead (.named u.name) := fun hown => hname hown.2.2
    rw [reportsByType_iff, reportsByType_iff,
      Registry.variants_resolve_canonical (by rwa [henv]) rfl hown]

/-- Of two declared unions the one is also an alias of the other: matches over the types of both
names are over the variants of the latter. -/
theorem declared_union_by_name_and_type_of_two_unions :
    ∃ (d : Document) (a : Analyzer) (arms : List MatchArm),
      d.aliases = [⟨"Answer", .named "Reply"⟩] ∧
      d.unions = [⟨"Reply", [.named "Yes", .named "No"], none⟩, ⟨"Answer", [.named "Maybe"], none⟩] ∧
      ofDocument {} d = .ok a ∧ arms ≠ [] ∧
      (∃ r, a.report ⟨.named "object", some "Reply", arms, none⟩ =
          .ok (some (⟨.named "object", [.named "Yes", .named "No"]⟩, r)) ∧
        a.ReportsByType arms none (.named "Reply") [.named "Yes", .named "No"] r ∧
        a.ReportsByType arms none (.named "Answer") [.named "Yes", .named "No"] r) ∧
      ∃ r, a.report ⟨.named "object", some "Answer", arms, none⟩ =
          .ok (some (⟨.named "object", [.named "Maybe"]⟩, r)) := by
  let d : Document := ⟨none, [⟨"Answer", .named "Reply"⟩],
    [⟨"Reply", [.named "Yes", .named "No"], none⟩, ⟨"Answer", [.named "Maybe"], none⟩], []⟩
  let a : Analyzer := ⟨{}, ⟨[("Answer", .named "Reply")], true⟩, ⟨["OneOf"], d.unions⟩⟩
  let arms : List MatchArm := [⟨.typeTest (some (.named "Yes")) none, none, none⟩]
  have ha : ofDocument {} d = .ok a := by cbv
  have harms : arms ≠ [] := List.cons_ne_nil _ _
  obtain ⟨r, hname, htype, -⟩ := declared_union_by_name_and_type ha
    (u := ⟨"Reply", [.named "Yes", .named "No"], none⟩) (by decide) harms (.named "object") none none
  obtain ⟨r', hname', -, halias⟩ := declared_union_by_name_and_type ha
    (u := ⟨"Answer", [.named "Maybe"], none⟩) (by decide) harms (.named "object") none none
  have hreply := htype (by decide) (by decide)
  exact ⟨d, a, arms, rfl, rfl, ha, harms,
    ⟨r, hname, hreply, (halias (by decide) _ r).mpr hreply⟩, r', hname'⟩

/-- A union that has the name of an alias is found by name, but not by type. -/
theorem declared_union_hidden_by_alias :
    ∃ (d : Document) (a : Analyzer) (u : UnionDecl) (arms : List MatchArm),
      d.aliases = [⟨"U", .named "Other"⟩] ∧ ofDocument {} d = .ok a ∧ u ∈ d.unions ∧
      u.name = "U" ∧ arms ≠ [] ∧
      (∃ r, a.report ⟨.named "object", some "U", arms, none⟩ =
        .ok (some (⟨.named "object", u.variants⟩, r))) ∧
      a.report ⟨.named "U", none, arms, none⟩ = .ok none := by
  let u : UnionDecl := ⟨"U", [.named "A", .named "B"], none⟩
  let d : Document := ⟨none, [⟨"U", .named "Other"⟩], [u], []⟩
  let a : Analyzer := ⟨{}, ⟨[("U", .named "Other")], true⟩, ⟨["OneOf"], [u]⟩⟩
  let arms : List MatchArm := [⟨.typeTest (some (.named "A")) none, none, none⟩,
    ⟨.typeTest (some (.named "B")) none, none, none⟩]
  exact ⟨d, a, u, arms, rfl, by cbv, List.mem_singleton_self u, rfl, List.cons_ne_nil _ _,
    ⟨_, rfl⟩, rfl⟩

end Analyzer

end MatchCover

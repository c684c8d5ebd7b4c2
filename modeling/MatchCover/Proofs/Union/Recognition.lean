import MatchCover.Proofs.Alias.Equality
import MatchCover.Proofs.Union.Declarations

/-!
# Which types are recognised as unions

Whether a type is recognised, and which variants it then has, is a matter of its canonical form,
with one exception. The arguments that a type spells are told from those of its canonical form by
the name alone; so an alias that stands for a type with arguments and its own name for a head, such
as `OneOf` for `OneOf<A, B>`, is taken for that head and left without variants.
-/

namespace MatchCover

/-! ## Arguments of canonical forms -/

namespace Environment

variable {env : Environment} {s : TypeRef}

/-- The type is an alias whose canonical form has arguments and the name of the alias for a head. -/
def NamesOwnHead (env : Environment) (s : TypeRef) : Prop :=
  s.args = [] ∧ (env.canonical s).args ≠ [] ∧ (env.canonical s).name = s.name

theorem canonical_args (hac : env.aliases.Acyclic) (h : s.args ≠ []) :
    (env.canonical s).args = s.args.map env.canonical := by
  obtain ⟨n, args, b⟩ := s
  rw [canonical_of_args hac h]

theorem map_canonical_args (hac : env.aliases.Acyclic) (s : TypeRef) :
    (env.canonical s).args.map env.canonical = (env.canonical s).args := by
  by_cases h : (env.canonical s).args = []
  · rw [h, List.map_nil]
  · rw [← canonical_args hac h, canonical_canonical hac]

end Environment

/-! ## The union of a type -/

namespace Registry

variable {env : Environment} {r : Registry} {s : TypeRef} {u : UnionType}

/-- The canonical forms of the variants of a union, from the canonical form of the union. -/
def variantKeys (r : Registry) (env : Environment) (key : TypeRef) : Option (List TypeRef) :=
  if key.args = [] then (r.find? key.name).map fun d => d.variants.map env.canonical
  else if r.isGeneric key then some key.args
  else none

theorem isGeneric_iff {t : TypeRef} :
    r.isGeneric t = true ↔ t.name ∈ r.generic ∨ t.simpleName ∈ r.generic := by
  rw [isGeneric, List.any_eq_true]
  constructor
  · rintro ⟨name, hmem, h⟩
    simp only [Bool.or_eq_true, beq_iff_eq] at h
    rcases h with rfl | rfl
    · exact .inl hmem
    · exact .inr hmem
  · rintro (hmem | hmem)
    · exact ⟨_, hmem, by simp⟩
    · exact ⟨_, hmem, by simp⟩

theorem resolve_of_name (h : (env.canonical s).args = []) :
    r.resolve env s = (r.find? (env.canonical s).name).map fun d => ⟨s, d.variants⟩ := by
  simp only [resolve, h, List.isEmpty_nil, if_true]

theorem resolve_of_args (h : (env.canonical s).args ≠ []) :
    r.resolve env s = if r.isGeneric (env.canonical s) then
      some ⟨s, if s.name = (env.canonical s).name then s.args else (env.canonical s).args⟩
    else none := by
  simp only [resolve, List.isEmpty_iff, h, if_false]

theorem isSome_resolve :
    (r.resolve env s).isSome = (r.variantKeys env (env.canonical s)).isSome := by
  unfold variantKeys
  by_cases h : (env.canonical s).args = []
  · rw [resolve_of_name h, if_pos h, Option.isSome_map, Option.isSome_map]
  · rw [resolve_of_args h, if_neg h]
    split <;> rfl

theorem variants_of_namesOwnHead (hs : env.NamesOwnHead s) (hu : r.resolve env s = some u) :
    u.variants = [] := by
  obtain ⟨hargs, h, hname⟩ := hs
  rw [resolve_of_args h, if_pos hname.symm, hargs] at hu
  split at hu
  · cases hu
    rfl
  · cases hu

/-- But for the exception, the variants have the canonical forms that the union determines. -/
theorem variantKeys_of_resolve (hac : env.aliases.Acyclic) (hs : ¬ env.NamesOwnHead s)
    (hu : r.resolve env s = some u) :
    r.variantKeys env (env.canonical s) = some (u.variants.map env.canonical) := by
  unfold variantKeys
  by_cases h : (env.canonical s).args = []
  · -- a declared union: its variants are those of the declaration
    rw [resolve_of_name h] at hu
    obtain ⟨d, hd, rfl⟩ := Option.map_eq_some_iff.mp hu
    rw [if_pos h, hd, Option.map_some]
  · rw [resolve_of_args h] at hu
    rw [if_neg h]
    split at hu
    · next hgen =>
      cases hu
      rw [if_pos hgen]
      congr 1
      split
      · next hname =>
        -- the spelled arguments are taken, and the exception is ruled out, so there are some
        have hargs : s.args ≠ [] := fun hnil => hs ⟨hnil, h, hname.symm⟩
        exact Environment.canonical_args hac hargs
      · exact (Environment.map_canonical_args hac s).symm
    · cases hu

theorem variantKeys_ne_nil (hr : ∀ d ∈ r.declared, d.variants ≠ []) {key : TypeRef}
    {keys : List TypeRef} (h : r.variantKeys env key = some keys) : keys ≠ [] := by
  unfold variantKeys at h
  split at h
  · obtain ⟨d, hd, rfl⟩ := Option.map_eq_some_iff.mp h
    rw [ne_eq, List.map_eq_nil_iff]
    exact hr d (List.mem_of_find?_eq_some hd)
  · next hargs =>
    split at h
    · cases h
      exact hargs
    · cases h

theorem variants_eq_nil_iff (hac : env.aliases.Acyclic) (hr : ∀ d ∈ r.declared, d.variants ≠ [])
    (hu : r.resolve env s = some u) : u.variants = [] ↔ env.NamesOwnHead s := by
  constructor
  · intro hnil
    by_contra hs
    have hne := variantKeys_ne_nil hr (variantKeys_of_resolve hac hs hu)
    rw [hnil, List.map_nil] at hne
    exact hne rfl
  · intro hs
    exact variants_of_namesOwnHead hs hu

theorem map_canonical_variants_iff (hac : env.aliases.Acyclic) (h : (env.canonical s).args ≠ [])
    (hu : r.resolve env s = some u) :
    u.variants.map env.canonical = (env.canonical s).args ↔ ¬ env.NamesOwnHead s := by
  constructor
  · intro hmap hs
    rw [variants_of_namesOwnHead hs hu, List.map_nil] at hmap
    exact h hmap.symm
  · intro hs
    have hkeys := variantKeys_of_resolve hac hs hu
    rw [variantKeys, if_neg h] at hkeys
    split at hkeys
    · exact (Option.some.inj hkeys).symm
    · cases hkeys

/-- Two types with one canonical form have the same variants, unless the exception is met by one of
them only. -/
theorem map_canonical_variants_eq_iff (hac : env.aliases.Acyclic)
    (hr : ∀ d ∈ r.declared, d.variants ≠ []) {s' : TypeRef} {u' : UnionType}
    (hs : env.canonical s' = env.canonical s) (hu : r.resolve env s = some u)
    (hu' : r.resolve env s' = some u') :
    u.variants.map env.canonical = u'.variants.map env.canonical ↔
      (env.NamesOwnHead s ↔ env.NamesOwnHead s') := by
  constructor
  · intro hmap
    rw [← variants_eq_nil_iff hac hr hu, ← variants_eq_nil_iff hac hr hu',
      ← List.map_eq_nil_iff (f := env.canonical), hmap, List.map_eq_nil_iff]
  · intro hiff
    by_cases hown : env.NamesOwnHead s
    · rw [variants_of_namesOwnHead hown hu, variants_of_namesOwnHead (hiff.mp hown) hu']
    · have hkeys := variantKeys_of_resolve hac hown hu
      have hkeys' := variantKeys_of_resolve hac (fun h => hown (hiff.mpr h)) hu'
      rw [hs, hkeys] at hkeys'
      exact Option.some.inj hkeys'

/-- Recognition follows the canonical form of the scrutinee: a name is a union if it is declared,
with the declared variants, and a type with arguments if it is built with a generic constructor. The
variants are then the arguments, and the same for all types with one canonical form, exactly where
no alias names its own head; there the variants are lost. -/
theorem resolve_follows_canonical_iff {table : AliasTable} {ignore : Bool} {generic : List String}
    {decls : List UnionDecl} (henv : Environment.ofAliases table ignore = .ok env)
    (hr : ofDecls generic decls env = .ok r) (s : TypeRef) :
    ((env.canonical s).args = [] → ∀ u, r.resolve env s = some u ↔
      ∃ d ∈ decls, d.name = (env.canonical s).name ∧ u = ⟨s, d.variants⟩) ∧
    ((env.canonical s).args ≠ [] →
      ((∃ u, r.resolve env s = some u) ↔
        (env.canonical s).name ∈ generic ∨ (env.canonical s).simpleName ∈ generic) ∧
      ∀ u, r.resolve env s = some u →
        (u.variants.map env.canonical = (env.canonical s).args ↔ ¬ env.NamesOwnHead s)) ∧
    (∀ u, r.resolve env s = some u → (u.variants = [] ↔ env.NamesOwnHead s)) ∧
    ∀ s', env.canonical s' = env.canonical s →
      ((∃ u, r.resolve env s = some u) ↔ ∃ u, r.resolve env s' = some u) ∧
      ∀ u u', r.resolve env s = some u → r.resolve env s' = some u' →
        (u.variants.map env.canonical = u'.variants.map env.canonical ↔
          (env.NamesOwnHead s ↔ env.NamesOwnHead s')) := by
  obtain ⟨hac, rfl⟩ := Environment.ofAliases_eq_ok_iff.mp henv
  obtain ⟨hdecls, hnd, rfl⟩ := ofDecls_eq_ok_iff.mp hr
  have hvariants : ∀ d ∈ decls, d.variants ≠ [] := fun d hd => (hdecls d hd).1
  refine ⟨?_, ?_, ?_, ?_⟩
  · intro h u
    rw [resolve_of_name h, Option.map_eq_some_iff]
    simp only [find?_eq_some_iff (r := ⟨generic, decls⟩) hnd, and_assoc, eq_comm]
  · intro h
    refine ⟨?_, fun u hu => map_canonical_variants_iff hac h hu⟩
    rw [resolve_of_args h, ← isGeneric_iff (r := ⟨generic, decls⟩)]
    split
    · next hgen => simp [hgen]
    · next hgen => simp [hgen]
  · intro u hu
    exact variants_eq_nil_iff hac hvariants hu
  · intro s' hs
    refine ⟨?_, fun u u' hu hu' => map_canonical_variants_eq_iff hac hvariants hs hu hu'⟩
    rw [← Option.isSome_iff_exists, ← Option.isSome_iff_exists, isSome_resolve, isSome_resolve, hs]

/-- An alias whose target has another alias for an argument. -/
theorem resolve_follows_canonical_iff_of_chain :
    ∃ env r, Environment.ofAliases [("Err", .named "Failure"),
        ("Outcome", ⟨"OneOf", [.named "Ok", .named "Err"], false⟩)] true = .ok env ∧
      ofDecls ["OneOf"] [] env = .ok r ∧
      ∃ u, r.resolve env (.named "Outcome") = some u ∧
        u.variants.map env.canonical = [.named "Ok", .named "Failure"] := by
  have henv : Environment.ofAliases [("Err", .named "Failure"),
      ("Outcome", ⟨"OneOf", [.named "Ok", .named "Err"], false⟩)] true =
        .ok ⟨[("Err", .named "Failure"),
          ("Outcome", ⟨"OneOf", [.named "Ok", .named "Err"], false⟩)], true⟩ := by cbv
  have hr (env : Environment) : ofDecls ["OneOf"] [] env = .ok ⟨["OneOf"], []⟩ := rfl
  have hargs := (resolve_follows_canonical_iff henv (hr _) (.named "Outcome")).2.1 (by decide)
  obtain ⟨u, hu⟩ := hargs.1.mpr (.inl (by decide))
  refine ⟨_, _, henv, hr _, u, hu, (hargs.2 u hu).mpr ?_⟩
  rintro ⟨-, -, hname⟩
  exact absurd hname (by decide)

/-- The alias `OneOf` of `OneOf<A, B>` is recognised, but left without variants. -/
theorem resolve_loses_variants :
    ∃ env r, Environment.ofAliases [("OneOf", ⟨"OneOf", [.named "A", .named "B"], false⟩)] true =
        .ok env ∧ ofDecls ["OneOf"] [] env = .ok r ∧
      (env.canonical (.named "OneOf")).args = [.named "A", .named "B"] ∧
      r.resolve env (.named "OneOf") = some ⟨.named "OneOf", []⟩ :=
  ⟨⟨[("OneOf", ⟨"OneOf", [.named "A", .named "B"], false⟩)], true⟩, ⟨["OneOf"], []⟩, by cbv, rfl,
    by decide, by decide⟩

end Registry

end MatchCover

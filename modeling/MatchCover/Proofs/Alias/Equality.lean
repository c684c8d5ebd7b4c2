import Mathlib.Data.List.Forall2
import MatchCover.Proofs.Alias.Canonical

/-!
# Which types mean the same

`SameType` is the least equality of types under which an alias is its target, types with the same
head are equal if their arguments are, and nullable marks do not count if they are ignored. Two
types are equal in this sense exactly if their canonical forms are the same: the canonical form
respects every rule, and each type is equal to its canonical form.
-/

namespace MatchCover

/-- The types mean the same under a table of aliases. -/
inductive SameType (table : AliasTable) (ignoreNullability : Bool) : TypeRef → TypeRef → Prop where
  | refl (t : TypeRef) : SameType table ignoreNullability t t
  | symm {t u : TypeRef} : SameType table ignoreNullability t u → SameType table ignoreNullability u t
  | trans {t u v : TypeRef} : SameType table ignoreNullability t u →
    SameType table ignoreNullability u v → SameType table ignoreNullability t v
  /-- A nullable mark of the alias goes over to the target. -/
  | target {n : String} {target : TypeRef} (b : Bool) : table.target? n = some target →
    SameType table ignoreNullability ⟨n, [], b⟩ (target.orNullable b)
  | args {as us : List TypeRef} (n : String) (b : Bool) : as ≠ [] → as.length = us.length →
    (∀ p ∈ as.zip us, SameType table ignoreNullability p.1 p.2) →
    SameType table ignoreNullability ⟨n, as, b⟩ ⟨n, us, b⟩
  | mark (n : String) (as : List TypeRef) (b : Bool) : ignoreNullability = true →
    SameType table ignoreNullability ⟨n, as, b⟩ ⟨n, as, !b⟩

/-! ## Marks -/

namespace SameType

variable {table : AliasTable} {ignore : Bool}

theorem of_ignored (h : ignore = true) (n : String) (as : List TypeRef) (b c : Bool) :
    SameType table ignore ⟨n, as, b⟩ ⟨n, as, c⟩ := by
  by_cases hbc : b = c
  · rw [hbc]
    exact .refl _
  · rw [Bool.eq_not_of_ne (Ne.symm hbc)]
    exact .mark n as b h

theorem orNullable {t u : TypeRef} (h : SameType table ignore t u) (b : Bool) :
    SameType table ignore (t.orNullable b) (u.orNullable b) := by
  induction h with
  | refl t => exact .refl _
  | symm _ ih => exact ih.symm
  | trans _ _ ih1 ih2 => exact ih1.trans ih2
  | target c ht =>
    rw [TypeRef.orNullable_orNullable]
    exact .target (c || b) ht
  | args n c has hlen h _ => exact .args n (c || b) has hlen h
  | mark n as c hi => exact of_ignored hi n as _ _

end SameType

namespace Environment

variable {env : Environment}

theorem mark_or (b c : Bool) : env.mark (b || c) = (env.mark b || env.mark c) := by
  unfold mark
  rw [Bool.and_or_distrib_right]

theorem sameType_mark (n : String) (as : List TypeRef) (b : Bool) :
    SameType env.aliases env.ignoreNullability ⟨n, as, env.mark b⟩ ⟨n, as, b⟩ := by
  unfold mark
  cases hi : env.ignoreNullability with
  | false => simpa using .refl _
  | true => exact .of_ignored rfl n as _ b

/-! ## The canonical form respects the rules -/

theorem canonical_orNullable (hac : env.aliases.Acyclic) (t : TypeRef) (b : Bool) :
    env.canonical (t.orNullable b) = (env.canonical t).orNullable (env.mark b) := by
  obtain ⟨n, as, c⟩ := t
  rw [TypeRef.orNullable]
  by_cases has : as = []
  · subst has
    cases ht : env.aliases.target? n with
    | none => rw [canonical_of_name ht, canonical_of_name ht, mark_or, TypeRef.orNullable]
    | some target =>
      rw [canonical_of_alias hac ht, canonical_of_alias hac ht, mark_or,
        TypeRef.orNullable_orNullable]
  · rw [canonical_of_args hac has, canonical_of_args hac has, mark_or, TypeRef.orNullable]

theorem map_canonical_eq {as us : List TypeRef} (hlen : as.length = us.length)
    (h : ∀ p ∈ as.zip us, env.canonical p.1 = env.canonical p.2) :
    as.map env.canonical = us.map env.canonical := by
  have hall : List.Forall₂ (fun a u => env.canonical a = env.canonical u) as us :=
    List.forall₂_iff_zip.mpr ⟨hlen, fun hp => h _ hp⟩
  rw [← List.forall₂_eq_eq_eq, List.forall₂_map_left_iff, List.forall₂_map_right_iff]
  exact hall

theorem canonical_eq_of_sameType (hac : env.aliases.Acyclic) {t u : TypeRef}
    (h : SameType env.aliases env.ignoreNullability t u) : env.canonical t = env.canonical u := by
  induction h with
  | refl t => rfl
  | symm _ ih => exact ih.symm
  | trans _ _ ih1 ih2 => exact ih1.trans ih2
  | target b ht => rw [canonical_of_alias hac ht, canonical_orNullable hac]
  | args n b has hlen _ ih =>
    have hus := List.ne_nil_of_length_pos (hlen ▸ List.length_pos_iff.mpr has)
    rw [canonical_of_args hac has, canonical_of_args hac hus, map_canonical_eq hlen ih]
  | mark n as b hi =>
    -- both marks come down to none
    have hmark : ∀ c, env.canonical ⟨n, as, c⟩ = env.canonical ⟨n, as, false⟩ := fun c => by
      have hor : env.canonical ⟨n, as, c⟩ = (env.canonical ⟨n, as, false⟩).orNullable (env.mark c) :=
        canonical_orNullable hac ⟨n, as, false⟩ c
      rw [hor, mark, hi, Bool.not_true, Bool.and_false, TypeRef.orNullable_false]
    rw [hmark b, hmark !b]

/-! ## Each type means the same as its canonical form -/

theorem sameType_canonical (hac : env.aliases.Acyclic) (t : TypeRef) :
    SameType env.aliases env.ignoreNullability (env.canonical t) t := by
  induction t using hac.recursion with
  | bound n b target ht ih =>
    rw [canonical_of_alias hac ht]
    refine .trans ?_ (SameType.target b ht).symm
    refine (ih.orNullable _).trans ?_
    obtain ⟨m, us, c⟩ := target
    unfold TypeRef.orNullable mark
    cases hi : env.ignoreNullability with
    | false => simpa using .refl _
    | true => exact .of_ignored rfl m us _ _
  | free n b ht =>
    rw [canonical_of_name ht]
    exact sameType_mark n [] b
  | args n as b has ih =>
    rw [canonical_of_args hac has]
    refine (sameType_mark n _ b).trans (.args n b (by simpa using has) (by simp) ?_)
    intro p hp
    obtain ⟨i, hi, rfl⟩ := List.mem_iff_getElem.mp hp
    rw [List.getElem_zip, List.getElem_map]
    exact ih _ (List.getElem_mem _)

/-! ## Aliases in canonical forms -/

theorem target?_of_mentions_canonical (hac : env.aliases.Acyclic) (t : TypeRef) {m : String}
    (h : (env.canonical t).Mentions m) : env.aliases.target? m = none := by
  induction t using hac.recursion with
  | bound n b target ht ih =>
    rw [canonical_of_alias hac ht, TypeRef.mentions_orNullable] at h
    exact ih h
  | free n b ht =>
    rw [canonical_of_name ht, TypeRef.mentions_nil] at h
    rw [h, ht]
  | args n as b has ih =>
    rw [canonical_of_args hac has, TypeRef.mentions_of_ne_nil (by simpa using has)] at h
    obtain ⟨_, hmem, hm⟩ := h
    obtain ⟨a, ha, rfl⟩ := List.mem_map.mp hmem
    exact ih a ha hm

theorem canonical_canonical (hac : env.aliases.Acyclic) (t : TypeRef) :
    env.canonical (env.canonical t) = env.canonical t :=
  canonical_eq_of_sameType hac (sameType_canonical hac t)

/-- Canonical forms are the same exactly for types that mean the same. The canonical form of a type
means the same as the type, stands for no alias any more, and is its own canonical form. -/
theorem canonical_decides_sameType {table : AliasTable} {ignore : Bool} {env : Environment}
    (h : ofAliases table ignore = .ok env) :
    (∀ t u, env.canonical t = env.canonical u ↔ SameType table ignore t u) ∧
    ∀ t, SameType table ignore (env.canonical t) t ∧
      (∀ n, (env.canonical t).Mentions n → table.target? n = none) ∧
      env.canonical (env.canonical t) = env.canonical t := by
  obtain ⟨hac, rfl⟩ := ofAliases_eq_ok_iff.mp h
  have hsame := @sameType_canonical ⟨table, ignore⟩ hac
  refine ⟨fun t u => ⟨fun he => ?_, fun hs => ?_⟩, fun t => ⟨hsame t, ?_, ?_⟩⟩
  · exact (hsame t).symm.trans (he ▸ hsame u)
  · exact @canonical_eq_of_sameType ⟨table, ignore⟩ hac t u hs
  · intro n hn
    exact target?_of_mentions_canonical hac t hn
  · exact canonical_canonical hac t

/-- A chain of aliases inside an argument, where the marks of its target count. -/
theorem canonical_decides_sameType_of_chain :
    ofAliases [("Id", .named "MaybeName"), ("MaybeName", ⟨"string", [], true⟩)] false =
      .ok ⟨[("Id", .named "MaybeName"), ("MaybeName", ⟨"string", [], true⟩)], false⟩ ∧
    SameType [("Id", .named "MaybeName"), ("MaybeName", ⟨"string", [], true⟩)] false
      ⟨"List", [.named "Id"], false⟩ ⟨"List", [⟨"string", [], true⟩], false⟩ ∧
    ¬ SameType [("Id", .named "MaybeName"), ("MaybeName", ⟨"string", [], true⟩)] false
      (.named "Id") (.named "string") := by
  have hok : ofAliases [("Id", .named "MaybeName"), ("MaybeName", ⟨"string", [], true⟩)] false =
      .ok ⟨[("Id", .named "MaybeName"), ("MaybeName", ⟨"string", [], true⟩)], false⟩ := by cbv
  have hiff := (canonical_decides_sameType hok).1
  refine ⟨hok, (hiff _ _).mp (by decide), fun hsame => ?_⟩
  exact absurd ((hiff _ _).mpr hsame) (by decide)

end Environment

end MatchCover

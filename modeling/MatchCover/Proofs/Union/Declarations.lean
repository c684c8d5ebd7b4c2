import Mathlib.Data.List.Nodup
import MatchCover.Union.Registry
import MatchCover.Proofs.Except

/-!
# Declared unions

A registry keeps all declarations that it accepts, in their order (`declareAfter_eq_ok_iff`). They
have variants, and their names differ, so that a name finds the one declaration that bears it.
-/

namespace MatchCover

namespace UnionDecl

variable {env : Environment} {earlier : List UnionDecl} {u : UnionDecl}

theorem repeatedVariant?_eq_none_iff {seen variants : List TypeRef} :
    repeatedVariant? env seen variants = none ↔
      (∀ v ∈ variants, env.canonical v ∉ seen) ∧ (variants.map env.canonical).Nodup := by
  induction variants generalizing seen with
  | nil => simp [repeatedVariant?]
  | cons v variants ih =>
    rw [repeatedVariant?, List.forall_mem_cons, List.map_cons, List.nodup_cons]
    split
    · next hseen => simp [hseen]
    · next hseen =>
      rw [ih, and_iff_right hseen]
      grind

theorem fault?_eq_none_iff :
    u.fault? env earlier = none ↔ u.variants ≠ [] ∧ repeatedVariant? env [] u.variants = none ∧
      u.name ∉ earlier.map (·.name) := by
  unfold fault?
  cases u.variants with
  | nil => simp
  | cons v vs => cases repeatedVariant? env [] (v :: vs) <;> simp

end UnionDecl

namespace Registry

variable {env : Environment} {earlier decls declared : List UnionDecl} {generic : List String}
  {r : Registry} {d : UnionDecl} {name : String}

theorem declareAfter_cons_eq_ok_iff :
    declareAfter env earlier (d :: decls) = .ok declared ↔
      d.fault? env earlier = none ∧ declareAfter env (earlier ++ [d]) decls = .ok declared := by
  rw [declareAfter]
  cases d.fault? env earlier with
  | none => simp
  | some fault => simp

/-- Where nothing is refused, what is declared is all that there was and all that was added. -/
theorem declareAfter_eq_ok_iff :
    declareAfter env earlier decls = .ok declared ↔
      (∀ d ∈ decls, d.variants ≠ [] ∧ UnionDecl.repeatedVariant? env [] d.variants = none ∧
        d.name ∉ earlier.map (·.name)) ∧ (decls.map (·.name)).Nodup ∧
        declared = earlier ++ decls := by
  induction decls generalizing earlier with
  | nil => simp [declareAfter, eq_comm]
  | cons d decls ih =>
    rw [declareAfter_cons_eq_ok_iff, UnionDecl.fault?_eq_none_iff, ih, List.forall_mem_cons,
      List.map_cons, List.nodup_cons, List.append_assoc, List.singleton_append]
    grind

theorem ofDecls_eq_ok_iff :
    ofDecls generic decls env = .ok r ↔
      (∀ d ∈ decls, d.variants ≠ [] ∧ UnionDecl.repeatedVariant? env [] d.variants = none) ∧
        (decls.map (·.name)).Nodup ∧ r = ⟨generic, decls⟩ := by
  have hdeclare (declared : List UnionDecl) : declareAfter env [] decls = .ok declared ↔
      ((∀ d ∈ decls, d.variants ≠ [] ∧ UnionDecl.repeatedVariant? env [] d.variants = none) ∧
        (decls.map (·.name)).Nodup) ∧ declared = decls := by
    simp [declareAfter_eq_ok_iff, and_assoc]
  unfold ofDecls
  rw [bind_eq_ok, ← and_assoc]
  constructor
  · rintro ⟨declared, h, hr⟩
    obtain ⟨hvalid, rfl⟩ := (hdeclare declared).mp h
    exact ⟨hvalid, (Except.ok.inj hr).symm⟩
  · rintro ⟨hvalid, rfl⟩
    exact ⟨decls, (hdeclare decls).mpr ⟨hvalid, rfl⟩, rfl⟩

theorem name_of_find?_eq_some (h : r.find? name = some d) : d.name = name := by
  have hb := List.find?_some h
  simpa using hb

/-- A name finds the declaration that bears it. -/
theorem find?_eq_some_iff (hnd : (r.declared.map (·.name)).Nodup) :
    r.find? name = some d ↔ d ∈ r.declared ∧ d.name = name := by
  constructor
  · intro h
    exact ⟨List.mem_of_find?_eq_some h, name_of_find?_eq_some h⟩
  · rintro ⟨hd, rfl⟩
    have hsome : (r.find? d.name).isSome = true :=
      List.find?_isSome.mpr ⟨d, hd, beq_self_eq_true d.name⟩
    obtain ⟨e, he⟩ := Option.isSome_iff_exists.mp hsome
    have hmem : e ∈ r.declared := List.mem_of_find?_eq_some he
    rw [he, List.inj_on_of_nodup_map hnd hmem hd (name_of_find?_eq_some he)]

end Registry

end MatchCover

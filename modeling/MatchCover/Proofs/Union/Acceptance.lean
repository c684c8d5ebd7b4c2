import MatchCover.Proofs.Union.Lookup

/-!
# Accepting declarations

Declarations are accepted exactly if each has variants, all of different types, and a name of its
own; the registry then knows each of them by its name and nothing else. Otherwise the first
declaration with a fault is reported (`Registry.ofDecls_accepts_valid`).
-/

namespace MatchCover

/-- A list is split either at its first element or behind it. -/
theorem exists_split_cons_iff {α : Type} {a x : α} {l : List α} {P : List α → List α → Prop} :
    (∃ before after, a :: l = before ++ x :: after ∧ P before after) ↔
      (a = x ∧ P [] l) ∨ ∃ before after, l = before ++ x :: after ∧ P (a :: before) after := by
  constructor
  · rintro ⟨_ | ⟨b, before⟩, after, heq, h⟩
    · cases heq
      exact .inl ⟨rfl, h⟩
    · cases heq
      exact .inr ⟨before, after, rfl, h⟩
  · rintro (⟨rfl, h⟩ | ⟨before, after, rfl, h⟩)
    · exact ⟨[], l, rfl, h⟩
    · exact ⟨a :: before, after, rfl, h⟩

namespace UnionDecl

variable {env : Environment} {earlier : List UnionDecl} {u : UnionDecl} {v : TypeRef}

/-- The first variant that means the same type as one before it. -/
def FirstRepeated (env : Environment) (variants : List TypeRef) (v : TypeRef) : Prop :=
  ∃ before after, variants = before ++ v :: after ∧ (before.map env.canonical).Nodup ∧
    env.canonical v ∈ before.map env.canonical

/-- There are variants, and all mean different types. -/
def Distinct (env : Environment) (u : UnionDecl) : Prop :=
  u.variants ≠ [] ∧ (u.variants.map env.canonical).Nodup

/-- The fault of a declaration that comes after `earlier`. Its name counts only if nothing is wrong
with its variants. -/
inductive HasFault (env : Environment) (earlier : List UnionDecl) (u : UnionDecl) : Fault → Prop
  | noVariants (h : u.variants = []) : HasFault env earlier u .noVariants
  | repeatedVariant {v : TypeRef} (h : FirstRepeated env u.variants v) :
      HasFault env earlier u (.repeatedVariant v)
  | redeclared (hu : u.Distinct env) (h : u.name ∈ earlier.map (·.name)) :
      HasFault env earlier u .redeclared

/-- What a variant repeats is one of the canonical forms seen already or that of a variant before
it, and those before it repeat nothing. -/
theorem repeatedVariant?_eq_some_iff {seen variants : List TypeRef} :
    repeatedVariant? env seen variants = some v ↔
      ∃ before after, variants = before ++ v :: after ∧
        (∀ b ∈ before, env.canonical b ∉ seen) ∧ (before.map env.canonical).Nodup ∧
        (env.canonical v ∈ seen ∨ env.canonical v ∈ before.map env.canonical) := by
  induction variants generalizing seen with
  | nil => simp [repeatedVariant?]
  | cons w variants ih =>
    rw [repeatedVariant?, exists_split_cons_iff]
    by_cases hseen : env.canonical w ∈ seen
    · simp only [hseen, if_true, Option.some.injEq, List.forall_mem_cons, not_true, false_and,
        and_false, exists_false, or_false]
      constructor
      · rintro rfl
        exact ⟨rfl, by simp, by simp, .inl hseen⟩
      · rintro ⟨rfl, -⟩
        rfl
    · have hfirst : ¬ (w = v ∧ (∀ b ∈ [], env.canonical b ∉ seen) ∧
          ([].map env.canonical).Nodup ∧
          (env.canonical v ∈ seen ∨ env.canonical v ∈ [].map env.canonical)) := by
        rintro ⟨rfl, -, -, h | h⟩
        · exact hseen h
        · cases h
      rw [if_neg hseen, ih, or_iff_right hfirst]
      refine exists₂_congr fun before after => and_congr_right fun _ => ?_
      have hbefore : (∀ b ∈ before, env.canonical b ∉ env.canonical w :: seen) ↔
          env.canonical w ∉ before.map env.canonical ∧ ∀ b ∈ before, env.canonical b ∉ seen := by
        simp [imp_and, forall_and]
      rw [hbefore, List.forall_mem_cons, List.map_cons, List.nodup_cons, List.mem_cons,
        List.mem_cons]
      tauto

theorem firstRepeated_iff {variants : List TypeRef} :
    FirstRepeated env variants v ↔ repeatedVariant? env [] variants = some v := by
  simp [repeatedVariant?_eq_some_iff, FirstRepeated]

theorem distinct_iff :
    u.Distinct env ↔ u.variants ≠ [] ∧ repeatedVariant? env [] u.variants = none := by
  simp [repeatedVariant?_eq_none_iff, Distinct]

theorem fault?_eq_some_iff {fault : Fault} :
    u.fault? env earlier = some fault ↔ u.HasFault env earlier fault := by
  constructor
  · intro h
    unfold fault? at h
    split at h
    · next hempty =>
      cases h
      exact .noVariants (List.isEmpty_iff.mp hempty)
    · next hempty =>
      split at h
      · next v hv =>
        cases h
        exact .repeatedVariant (firstRepeated_iff.mpr hv)
      · next hnone =>
        split at h
        · next hname =>
          cases h
          exact .redeclared (distinct_iff.mpr ⟨by simpa using hempty, hnone⟩) hname
        · cases h
  · rintro (h | @⟨v, h⟩ | ⟨hu, h⟩)
    · simp [fault?, h]
    · have hne : u.variants ≠ [] := by
        obtain ⟨before, after, heq, -⟩ := h
        simp [heq]
      simp [fault?, hne, firstRepeated_iff.mp h]
    · obtain ⟨hne, hnone⟩ := distinct_iff.mp hu
      simp only [fault?, List.isEmpty_iff, hne, hnone, h, if_true, if_false]

end UnionDecl

namespace Registry

variable {env : Environment} {earlier decls : List UnionDecl} {generic : List String}
  {r : Registry} {e : CheckError}

/-- Each declaration has variants, all of different types, and a name of its own. -/
def Valid (env : Environment) (decls : List UnionDecl) : Prop :=
  (∀ d ∈ decls, d.Distinct env) ∧ (decls.map (·.name)).Nodup

theorem ofDecls_eq_ok_iff_valid :
    ofDecls generic decls env = .ok r ↔ Valid env decls ∧ r = ⟨generic, decls⟩ := by
  simp only [ofDecls_eq_ok_iff, Valid, UnionDecl.distinct_iff, and_assoc]

/-- Declarations are added up to the first with a fault. -/
theorem declareAfter_eq_error_iff :
    declareAfter env earlier decls = .error e ↔
      ∃ u fault before after, decls = before ++ u :: after ∧
        (∃ declared, declareAfter env earlier before = .ok declared) ∧
        u.fault? env (earlier ++ before) = some fault ∧
        e = .invalidUnion u.name fault.message u.span := by
  induction decls generalizing earlier with
  | nil => simp [declareAfter]
  | cons d decls ih =>
    simp only [exists_split_cons_iff, declareAfter_cons_eq_ok_iff]
    rw [declareAfter]
    cases hd : d.fault? env earlier with
    | some fault => simp [declareAfter, hd, eq_comm]
    | none => simp [declareAfter, hd, ih, exists_or]

theorem exists_declareAfter_nil_iff :
    (∃ declared, declareAfter env [] decls = .ok declared) ↔ Valid env decls := by
  simp [declareAfter_eq_ok_iff, Valid, UnionDecl.distinct_iff]

theorem ofDecls_eq_error_iff :
    ofDecls generic decls env = .error e ↔
      ∃ u fault before after, decls = before ++ u :: after ∧ Valid env before ∧
        u.HasFault env before fault ∧ e = .invalidUnion u.name fault.message u.span := by
  simp only [← exists_declareAfter_nil_iff, ← UnionDecl.fault?_eq_some_iff]
  unfold ofDecls
  rw [bind_eq_error, declareAfter_eq_error_iff]
  simp

/-- Declarations are refused at the place of one of them. -/
theorem exists_of_ofDecls_eq_error (h : ofDecls generic decls env = .error e) :
    ∃ u ∈ decls, e.span? = u.span := by
  obtain ⟨u, fault, before, after, rfl, -, -, rfl⟩ := ofDecls_eq_error_iff.mp h
  exact ⟨u, List.mem_append_right _ List.mem_cons_self, rfl⟩

theorem lookup_of_mem (hnd : (decls.map (·.name)).Nodup) {d : UnionDecl} (hd : d ∈ decls)
    (span : Option Span) : lookup ⟨generic, decls⟩ d.name span = .ok d :=
  lookup_of_find? ((find?_eq_some_iff (r := ⟨generic, decls⟩) hnd).mpr ⟨hd, rfl⟩)

/-- Which declarations make a registry, and what it then knows. It is refused exactly if some
declaration has no variants, variants of one canonical form, or the name of an earlier declaration;
the error is about the first such declaration, and about its first variant that repeats a canonical
form if there is one. An accepted list is known in full, each declaration by its name. -/
theorem ofDecls_accepts_valid (generic : List String) (decls : List UnionDecl)
    (env : Environment) :
    ((∃ r, ofDecls generic decls env = .ok r) ↔ Valid env decls) ∧
    (∀ r, ofDecls generic decls env = .ok r →
      r.generic = generic ∧ r.declared.length = decls.length ∧
      ∀ d ∈ decls, ∀ span, r.lookup d.name span = .ok d) ∧
    ∀ e, ofDecls generic decls env = .error e ↔
      ∃ u fault before after, decls = before ++ u :: after ∧ Valid env before ∧
        u.HasFault env before fault ∧ e = .invalidUnion u.name fault.message u.span := by
  refine ⟨?_, fun r hr => ?_, fun e => ofDecls_eq_error_iff⟩
  · simp only [ofDecls_eq_ok_iff_valid, exists_and_left, exists_eq, and_true]
  · obtain ⟨hvalid, rfl⟩ := ofDecls_eq_ok_iff_valid.mp hr
    exact ⟨rfl, rfl, fun d hd span => lookup_of_mem hvalid.2 hd span⟩

/-- The second declaration repeats a variant under an alias and also the name of the first; the last
one has no variants. -/
theorem ofDecls_accepts_valid_of_several_faults :
    ∃ (env : Environment) (decls : List UnionDecl), env = ⟨[("int", .named "Int32")], true⟩ ∧
      decls = [⟨"U", [.named "A"], none⟩,
        ⟨"U", [.named "int", .named "A", .named "Int32"], some ⟨3, 9⟩⟩, ⟨"V", [], none⟩] ∧
      ofDecls [] decls env = .error (.invalidUnion "U"
        "variant `Int32` is listed more than once" (some ⟨3, 9⟩)) ∧
      ∃ r, ofDecls [] (decls.take 1) env = .ok r ∧ r.declared.length = 1 ∧
        r.lookup "U" none = .ok ⟨"U", [.named "A"], none⟩ := by
  let env : Environment := ⟨[("int", .named "Int32")], true⟩
  let u : UnionDecl := ⟨"U", [.named "A"], none⟩
  let u' : UnionDecl := ⟨"U", [.named "int", .named "A", .named "Int32"], some ⟨3, 9⟩⟩
  let v : UnionDecl := ⟨"V", [], none⟩
  have hvalid : Valid env [u] := ⟨by simp [u, UnionDecl.Distinct], by simp⟩
  have hrepeated : u'.HasFault env [u] (.repeatedVariant (.named "Int32")) :=
    .repeatedVariant ⟨[.named "int", .named "A"], [], rfl, by decide, by decide⟩
  have herror := ((ofDecls_accepts_valid [] [u, u', v] env).2.2 _).mpr
    ⟨u', _, [u], [v], rfl, hvalid, hrepeated, rfl⟩
  obtain ⟨haccepts, hknown, -⟩ := ofDecls_accepts_valid [] [u] env
  obtain ⟨r, hr⟩ := haccepts.mpr hvalid
  obtain ⟨-, hcount, hlookup⟩ := hknown r hr
  exact ⟨env, [u, u', v], rfl, rfl, herror, r, hr, hcount, hlookup u List.mem_cons_self none⟩

end Registry

end MatchCover

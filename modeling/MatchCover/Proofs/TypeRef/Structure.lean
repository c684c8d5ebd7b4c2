import MatchCover.Alias.Table
import MatchCover.Proofs.Except

/-!
# Induction over types

A type holds its arguments in a list. `argsInduction` gives the induction hypothesis for every
member of that list, and the functions that go through a type by a companion on lists are written
here with the functions of lists. `AllNames` says something of every name in a type, `Mentions` which
names stand in it without arguments.
-/

namespace MatchCover.TypeRef

@[elab_as_elim]
theorem argsInduction {P : TypeRef → Prop}
    (mk : ∀ name args nullable, (∀ a ∈ args, P a) → P ⟨name, args, nullable⟩) (t : TypeRef) : P t :=
  @TypeRef.rec P (fun ts => ∀ a ∈ ts, P a)
    (fun name args nullable ih => mk name args nullable ih) (fun _ h => nomatch h)
    (fun _ _ ih ihs => List.forall_mem_cons.mpr ⟨ih, ihs⟩) t

/-! ## Marks -/

section
variable {t : TypeRef}

@[simp] theorem orNullable_false : t.orNullable false = t := by
  cases t
  simp [orNullable]

@[simp] theorem orNullable_orNullable (b c : Bool) :
    (t.orNullable b).orNullable c = t.orNullable (b || c) := by
  simp [orNullable, Bool.or_assoc]

end

theorem allWithoutNullable_eq_map (ts : List TypeRef) :
    allWithoutNullable ts = ts.map withoutNullable := by
  induction ts with
  | nil => rfl
  | cons t ts ih => rw [allWithoutNullable, ih, List.map_cons]

theorem withoutNullable_mk (name : String) (args : List TypeRef) (b : Bool) :
    withoutNullable ⟨name, args, b⟩ = ⟨name, args.map withoutNullable, false⟩ := by
  rw [withoutNullable, allWithoutNullable_eq_map]

@[simp] theorem withoutNullable_orNullable (t : TypeRef) (b : Bool) :
    (t.orNullable b).withoutNullable = t.withoutNullable := by
  cases t
  simp only [orNullable, withoutNullable_mk]

/-! ## Names -/

/-- What is said of names holds of every name in the type, with arguments or without. -/
inductive AllNames (P : String → Prop) : TypeRef → Prop where
  | mk {name : String} {args : List TypeRef} {nullable : Bool} :
    P name → (∀ a ∈ args, AllNames P a) → AllNames P ⟨name, args, nullable⟩

theorem allNames_mk {P : String → Prop} {name : String} {args : List TypeRef} {nullable : Bool} :
    AllNames P ⟨name, args, nullable⟩ ↔ P name ∧ ∀ a ∈ args, a.AllNames P := by
  constructor
  · rintro ⟨hname, hargs⟩
    exact ⟨hname, hargs⟩
  · rintro ⟨hname, hargs⟩
    exact .mk hname hargs

theorem allNames_orNullable {P : String → Prop} {t : TypeRef} {b : Bool} :
    (t.orNullable b).AllNames P ↔ t.AllNames P := by
  cases t
  exact allNames_mk.trans allNames_mk.symm

/-! ## Substitution -/

section
variable {f g : String → Option TypeRef}

theorem substituteAll?_eq_mapM (ts : List TypeRef) :
    substituteAll? f ts = ts.mapM (substitute? f) := by
  induction ts with
  | nil => rfl
  | cons t ts ih => rw [substituteAll?, ih, List.mapM_cons]

theorem substitute?_of_ne_nil {args : List TypeRef} (h : args ≠ []) (name : String) (b : Bool) :
    substitute? f ⟨name, args, b⟩ = (args.mapM (substitute? f)).map (⟨name, ·, b⟩) := by
  cases args with
  | nil => exact absurd rfl h
  | cons t ts =>
    rw [substitute?, substituteAll?_eq_mapM, List.mapM_cons]
    cases substitute? f t with
    | none => rfl
    | some u => cases ts.mapM (substitute? f) <;> rfl

theorem substitute?_nil (name : String) (b : Bool) :
    substitute? f ⟨name, [], b⟩ = (f name).map (·.orNullable b) := rfl

end

/-! ## Names without arguments -/

/-- The name stands somewhere in the type without arguments. -/
inductive Mentions : TypeRef → String → Prop where
  | name (n : String) (b : Bool) : Mentions ⟨n, [], b⟩ n
  | arg {n m : String} {args : List TypeRef} {b : Bool} {a : TypeRef} :
    a ∈ args → Mentions a m → Mentions ⟨n, args, b⟩ m

theorem mentions_nil {n m : String} {b : Bool} : Mentions ⟨n, [], b⟩ m ↔ m = n := by
  constructor
  · intro h
    cases h with
    | name => rfl
    | arg ha _ => cases ha
  · rintro rfl
    exact .name m b

theorem mentions_of_ne_nil {n m : String} {args : List TypeRef} {b : Bool} (h : args ≠ []) :
    Mentions ⟨n, args, b⟩ m ↔ ∃ a ∈ args, Mentions a m := by
  constructor
  · intro hm
    cases hm with
    | name => exact absurd rfl h
    | arg ha hm => exact ⟨_, ha, hm⟩
  · rintro ⟨a, ha, hm⟩
    exact .arg ha hm

theorem mentions_orNullable {t : TypeRef} {b : Bool} {m : String} :
    (t.orNullable b).Mentions m ↔ t.Mentions m := by
  obtain ⟨n, as, c⟩ := t
  cases as with
  | nil => exact mentions_nil.trans mentions_nil.symm
  | cons a as => exact (mentions_of_ne_nil (by simp)).trans (mentions_of_ne_nil (by simp)).symm

/-- Induction that starts from the names that a type mentions. -/
theorem leafInduction {P : TypeRef → Prop} {t : TypeRef}
    (args : ∀ n as b, as ≠ [] → (∀ a ∈ as, P a) → P ⟨n, as, b⟩)
    (leaf : ∀ n b, t.Mentions n → P ⟨n, [], b⟩) : P t := by
  induction t using argsInduction with
  | mk n as b ih =>
    cases as with
    | nil => exact leaf n b (.name n b)
    | cons a as =>
      exact args n _ b (by simp) fun u hu => ih u hu fun m c hm => leaf m c (.arg hu hm)

theorem leavesOfAll_eq_flatMap (ts : List TypeRef) : leavesOfAll ts = ts.flatMap leaves := by
  induction ts with
  | nil => rfl
  | cons t ts ih => rw [leavesOfAll, ih, List.flatMap_cons]

theorem mem_leaves {t : TypeRef} {m : String} : m ∈ t.leaves ↔ t.Mentions m := by
  induction t using argsInduction with
  | mk name args b ih =>
    cases args with
    | nil => rw [leaves, List.mem_singleton, mentions_nil]
    | cons a as =>
      rw [leaves, leavesOfAll_eq_flatMap, ← List.flatMap_cons, List.mem_flatMap,
        mentions_of_ne_nil (by simp)]
      exact exists_congr fun u => and_congr_right fun hu => ih u hu

/-- There is a type if there is one for each name that is mentioned. -/
theorem isSome_substitute? {f : String → Option TypeRef} {t : TypeRef}
    (h : ∀ m, t.Mentions m → (f m).isSome = true) : (substitute? f t).isSome = true := by
  apply leafInduction (P := fun u => (substitute? f u).isSome = true)
  · intro n as b has ih
    have hargs : as.mapM (substitute? f) = some (as.map fun a => (substitute? f a).getD a) :=
      mapM_eq_some_map fun a ha => by rw [← Option.some_get (ih a ha), Option.getD_some]
    rw [substitute?_of_ne_nil has, hargs, Option.map_some, Option.isSome_some]
  · intro n b hn
    rw [substitute?_nil, Option.isSome_map]
    exact h n hn

/-- What is put for names may become more. -/
theorem substitute?_mono {f g : String → Option TypeRef} {t u : TypeRef}
    (h : ∀ m, t.Mentions m → ∀ v, f m = some v → g m = some v) (hu : substitute? f t = some u) :
    substitute? g t = some u := by
  revert u
  apply leafInduction (P := fun t => ∀ u, substitute? f t = some u → substitute? g t = some u)
  · intro n as b has ih u hu
    rw [substitute?_of_ne_nil has, Option.map_eq_some_iff] at hu ⊢
    obtain ⟨us, hus, rfl⟩ := hu
    have hall := (List.forall₂_and_left _ _).mpr ⟨ih, mapM_eq_some_iff.mp hus⟩
    exact ⟨us, mapM_eq_some_iff.mpr (hall.imp fun a v h => h.1 v h.2), rfl⟩
  · intro n b hn u hu
    rw [substitute?_nil, Option.map_eq_some_iff] at hu ⊢
    obtain ⟨v, hv, rfl⟩ := hu
    exact ⟨v, h n hn v hv, rfl⟩

end MatchCover.TypeRef

import Mathlib.Order.WellFounded
import MatchCover.Alias.Environment
import MatchCover.Proofs.Alias.Search

/-!
# Canonical forms, one step at a time

Aliases are resolved up to a depth. Where the table has no circles the depth is never reached
(`exists_resolve?`), and the canonical form obeys the equations of the recursion: an alias has the
canonical form of its target, any other name is kept, and arguments are taken one by one.
`Acyclic.recursion` is the induction that goes with the equations.
-/

namespace MatchCover

/-! ## Tables that are accepted -/

namespace AliasTable

variable {table : AliasTable}

theorem Grounded.not_transGen_self {n : String} (h : table.Grounded n) :
    ¬ Relation.TransGen table.RefersTo n n := by
  intro hc
  refine not_acc_iff_exists_descending_chain.mpr ⟨fun _ => n, rfl, fun _ => ?_⟩ h.transGen
  exact Relation.transGen_swap.mp hc

theorem cycle?_eq_none_iff : table.cycle? = none ↔ table.Acyclic := by
  constructor
  · intro h n
    exact (grounded_of_cycle?_eq_none h n).not_transGen_self
  · intro hac
    by_contra hne
    obtain ⟨path, hp⟩ := Option.ne_none_iff_exists'.mp hne
    exact (isCircle_of_cycle?_eq_some hp).not_acyclic hac

theorem Acyclic.grounded (hac : table.Acyclic) (n : String) : table.Grounded n :=
  grounded_of_cycle?_eq_none (cycle?_eq_none_iff.mpr hac) n

/-- What holds of the names that are no aliases, of an alias if it does of its target, and of a
type with arguments if it does of these, holds of all types. -/
@[elab_as_elim]
theorem Acyclic.recursion (hac : table.Acyclic) {P : TypeRef → Prop}
    (bound : ∀ n b target, table.target? n = some target → P target → P ⟨n, [], b⟩)
    (free : ∀ n b, table.target? n = none → P ⟨n, [], b⟩)
    (args : ∀ n as b, as ≠ [] → (∀ a ∈ as, P a) → P ⟨n, as, b⟩) (t : TypeRef) : P t := by
  -- along the references for names, and inside each target along the structure of types
  have hleaf : ∀ n, table.Grounded n → ∀ b, P ⟨n, [], b⟩ := by
    intro n hn
    induction hn with
    | intro n _ ih =>
      intro b
      cases ht : table.target? n with
      | none => exact free n b ht
      | some target =>
        refine bound n b target ht (TypeRef.leafInduction args fun m c hm => ?_)
        cases hm' : table.target? m with
        | none => exact free m c hm'
        | some _ => exact ih m ⟨target, ht, hm, by rw [hm', Option.isSome_some]⟩ c
  exact TypeRef.leafInduction args fun n b _ => hleaf n (hac.grounded n) b

end AliasTable

namespace Environment

theorem ofAliases_eq_ok_iff {table : AliasTable} {ignore : Bool} {env : Environment} :
    ofAliases table ignore = .ok env ↔ table.Acyclic ∧ env = ⟨table, ignore⟩ := by
  rw [← AliasTable.cycle?_eq_none_iff, ofAliases]
  cases table.cycle? with
  | some path => simp
  | none =>
    rw [eq_comm]
    simp

theorem ofAliases_eq_error_iff {table : AliasTable} {ignore : Bool} {e : CheckError} :
    ofAliases table ignore = .error e ↔ ∃ path, table.cycle? = some path ∧ e = .aliasCycle path := by
  rw [ofAliases]
  cases table.cycle? with
  | some path =>
    rw [eq_comm]
    simp
  | none => simp

/-! ## Depth -/

variable {table : AliasTable} {depth : Nat} {n : String} {t u : TypeRef}

theorem resolve?_of_alias {target : TypeRef} (ht : table.target? n = some target) (b : Bool) :
    resolve? table (depth + 1) ⟨n, [], b⟩ =
      (resolve? table depth target).map (·.orNullable b) := by
  rw [resolve?, TypeRef.substitute?_nil, ht]

theorem resolve?_of_name (ht : table.target? n = none) (b : Bool) :
    resolve? table (depth + 1) ⟨n, [], b⟩ = some ⟨n, [], b⟩ := by
  rw [resolve?, TypeRef.substitute?_nil, ht, Option.map_some, TypeRef.named, TypeRef.orNullable,
    Bool.false_or]

theorem resolve?_of_args {args : List TypeRef} (h : args ≠ []) (b : Bool) :
    resolve? table (depth + 1) ⟨n, args, b⟩ =
      (args.mapM (resolve? table (depth + 1))).map (⟨n, ·, b⟩) :=
  TypeRef.substitute?_of_ne_nil h n b

/-- More depth changes nothing once a type is resolved. -/
theorem resolve?_succ (h : resolve? table depth t = some u) :
    resolve? table (depth + 1) t = some u := by
  induction depth generalizing t u with
  | zero => cases h
  | succ depth ih =>
    refine TypeRef.substitute?_mono (fun n _ v hv => ?_) h
    cases ht : table.target? n with
    | none => simpa only [ht] using hv
    | some target =>
      simp only [ht] at hv ⊢
      exact ih hv

/-- A depth that exceeds all paths of references from the type is enough. -/
theorem isSome_resolve?
    (h : ∀ n path, t.Mentions n → (table.target? n).isSome = true →
      (n :: path).IsChain table.RefersTo → path.length < depth) :
    (resolve? table (depth + 1) t).isSome = true := by
  induction depth generalizing t with
  | zero =>
    refine TypeRef.isSome_substitute? fun n hn => ?_
    cases ht : table.target? n with
    | none => rfl
    | some target =>
      have hlt := h n [] hn (by rw [ht, Option.isSome_some]) (List.isChain_singleton n)
      exact absurd hlt (Nat.not_lt_zero _)
  | succ depth ih =>
    refine TypeRef.isSome_substitute? fun n hn => ?_
    cases ht : table.target? n with
    | none => rfl
    | some target =>
      refine ih fun m path hm hms hc => ?_
      have hnm : table.RefersTo n m := ⟨target, ht, hm, hms⟩
      have hlt := h n (m :: path) hn hnm.isSome_left (List.isChain_cons_cons.mpr ⟨hnm, hc⟩)
      rw [List.length_cons] at hlt
      omega

/-- The bound on the depth is never reached in a table without circles. -/
theorem exists_resolve? (hac : table.Acyclic) (t : TypeRef) :
    ∃ u, resolve? table (table.length + 1) t = some u :=
  Option.isSome_iff_exists.mp (isSome_resolve? fun _ _ _ hn hc => hac.length_lt hc hn)

/-! ## The equations -/

/-- A nullable mark as far as it counts. -/
def mark (env : Environment) (b : Bool) : Bool := b && !env.ignoreNullability

variable {env : Environment}

theorem canonical_of_resolve? (h : resolve? env.aliases (env.aliases.length + 1) t = some u) :
    env.canonical t = if env.ignoreNullability then u.withoutNullable else u := by
  rw [canonical, h, Option.getD_some]

theorem canonical_of_alias (hac : env.aliases.Acyclic) {target : TypeRef}
    (ht : env.aliases.target? n = some target) (b : Bool) :
    env.canonical ⟨n, [], b⟩ = (env.canonical target).orNullable (env.mark b) := by
  obtain ⟨u, hu⟩ := exists_resolve? hac target
  obtain ⟨v, hv⟩ := exists_resolve? hac ⟨n, [], b⟩
  have hdeeper := resolve?_succ hv
  rw [resolve?_of_alias ht, hu] at hdeeper
  cases hdeeper
  rw [canonical_of_resolve? hu, canonical_of_resolve? hv, mark]
  cases env.ignoreNullability <;> simp

theorem canonical_of_name (ht : env.aliases.target? n = none) (b : Bool) :
    env.canonical ⟨n, [], b⟩ = ⟨n, [], env.mark b⟩ := by
  rw [canonical_of_resolve? (resolve?_of_name ht b), mark]
  cases env.ignoreNullability <;> simp [TypeRef.withoutNullable_mk]

theorem canonical_of_args (hac : env.aliases.Acyclic) {args : List TypeRef} (h : args ≠ [])
    (n : String) (b : Bool) :
    env.canonical ⟨n, args, b⟩ = ⟨n, args.map env.canonical, env.mark b⟩ := by
  have hargs : args.mapM (resolve? env.aliases (env.aliases.length + 1)) =
      some (args.map fun a => (resolve? env.aliases (env.aliases.length + 1) a).getD a) :=
    mapM_eq_some_map fun a _ => by
      obtain ⟨u, hu⟩ := exists_resolve? hac a
      rw [hu, Option.getD_some]
  rw [canonical_of_resolve? (by rw [resolve?_of_args h, hargs, Option.map_some]), mark]
  cases hi : env.ignoreNullability with
  | false => simp [canonical, hi]
  | true => simp [canonical, hi, TypeRef.withoutNullable_mk]

/-- The names in a canonical form are those of the type and of the targets of aliases. -/
theorem allNames_canonical (hac : env.aliases.Acyclic) {P : String → Prop}
    (htargets : ∀ n target, env.aliases.target? n = some target → target.AllNames P) {t : TypeRef}
    (h : t.AllNames P) : (env.canonical t).AllNames P := by
  induction t using hac.recursion with
  | bound n b target ht ih =>
    rw [canonical_of_alias hac ht, TypeRef.allNames_orNullable]
    exact ih (htargets n target ht)
  | free n b ht =>
    rw [canonical_of_name ht]
    exact TypeRef.allNames_mk.mpr (TypeRef.allNames_mk.mp h)
  | args n as b has ih =>
    obtain ⟨hname, hargs⟩ := TypeRef.allNames_mk.mp h
    rw [canonical_of_args hac has]
    refine .mk hname fun c hc => ?_
    obtain ⟨a, ha, rfl⟩ := List.mem_map.mp hc
    exact ih a ha (hargs a ha)

end Environment

end MatchCover

import MatchCover.Proofs.Alias.Canonical

/-!
# Where the recursion of canonical forms ends

Taken literally, the canonical form of an alias asks for that of its target, and the canonical form
of a type with arguments for those of the arguments. `Calls` is this relation between types. On the
tables that are accepted the recursion ends for every type; on the others every name of the
reported circle starts an endless chain of calls.
-/

namespace MatchCover

open Environment

namespace AliasTable

/-- The canonical form of a type asks for that of another. -/
inductive Calls (table : AliasTable) : TypeRef → TypeRef → Prop where
  | target {n : String} {target : TypeRef} (b : Bool) :
    table.target? n = some target → Calls table ⟨n, [], b⟩ target
  | arg {n : String} {args : List TypeRef} {b : Bool} {a : TypeRef} :
    a ∈ args → Calls table ⟨n, args, b⟩ a

/-- The recursion on a type comes to an end. -/
def Ends (table : AliasTable) (t : TypeRef) : Prop := Acc (fun u t => table.Calls t u) t

/-- The recursion on a type goes on for ever. -/
def Endless (table : AliasTable) (t : TypeRef) : Prop :=
  ∃ calls : Nat → TypeRef, calls 0 = t ∧ ∀ i, table.Calls (calls i) (calls (i + 1))

variable {table : AliasTable}

theorem endless_iff {t : TypeRef} : table.Endless t ↔ ¬ table.Ends t := by
  unfold Endless Ends
  rw [not_acc_iff_exists_descending_chain]

theorem Acyclic.ends (hac : table.Acyclic) (t : TypeRef) : table.Ends t := by
  induction t using hac.recursion with
  | bound n b target ht ih =>
    refine Acc.intro _ fun u hu => ?_
    cases hu with
    | target _ hu =>
      obtain rfl := Option.some.inj (ht.symm.trans hu)
      exact ih
    | arg ha => cases ha
  | free n b ht =>
    refine Acc.intro _ fun u hu => ?_
    cases hu with
    | target _ hu =>
      rw [ht] at hu
      cases hu
    | arg ha => cases ha
  | args n as b has ih =>
    refine Acc.intro _ fun u hu => ?_
    cases hu with
    | target => exact absurd rfl has
    | arg ha => exact ih u ha

/-! ## Chains of calls along references -/

theorem exists_calls_of_mentions (table : AliasTable) {t : TypeRef} {m : String}
    (h : t.Mentions m) :
    ∃ b, Relation.ReflTransGen table.Calls t ⟨m, [], b⟩ := by
  induction h with
  | name n b => exact ⟨b, .refl⟩
  | arg ha _ ih =>
    obtain ⟨b, hb⟩ := ih
    exact ⟨b, .head (.arg ha) hb⟩

theorem RefersTo.exists_calls {n m : String} (h : table.RefersTo n m) (b : Bool) :
    ∃ c, Relation.TransGen table.Calls ⟨n, [], b⟩ ⟨m, [], c⟩ := by
  obtain ⟨target, ht, hm, -⟩ := h
  obtain ⟨c, hc⟩ := exists_calls_of_mentions table hm
  exact ⟨c, .head' (.target b ht) hc⟩

theorem Ends.grounded {n : String} {b : Bool} (h : table.Ends ⟨n, [], b⟩) : table.Grounded n := by
  -- one reference is many calls, so that the induction is along chains of calls
  generalize ht : (⟨n, [], b⟩ : TypeRef) = t at h
  induction h.transGen generalizing n b with
  | intro t _ ih =>
    subst ht
    refine Acc.intro n fun m hm => ?_
    obtain ⟨c, hc⟩ := hm.exists_calls b
    have hcalls := Relation.transGen_swap.mpr hc
    exact ih _ hcalls rfl (h.inv_of_transGen hcalls)

theorem endless_of_transGen_self {n : String} (h : Relation.TransGen table.RefersTo n n)
    (b : Bool) : table.Endless ⟨n, [], b⟩ :=
  endless_iff.mpr fun hends => hends.grounded.not_transGen_self h

end AliasTable

/-! ## The recursion and the canonical form -/

namespace Environment

/-- The type without its own nullable mark, if marks do not count. -/
def unmark (env : Environment) (t : TypeRef) : TypeRef :=
  if env.ignoreNullability then { t with nullable := false } else t

/-- One step of the recursion: the canonical form of a type, given those of the types it calls. -/
def canonicalStep (env : Environment) (canonical : TypeRef → TypeRef) : TypeRef → TypeRef
  | ⟨name, [], nullable⟩ =>
    match env.aliases.target? name with
    | some target => env.unmark ((canonical target).orNullable nullable)
    | none => env.unmark ⟨name, [], nullable⟩
  | ⟨name, t :: ts, nullable⟩ => env.unmark ⟨name, (t :: ts).map canonical, nullable⟩

variable {env : Environment} {f g : TypeRef → TypeRef} {n : String}

theorem canonicalStep_of_alias {target : TypeRef} (ht : env.aliases.target? n = some target)
    (b : Bool) : env.canonicalStep f ⟨n, [], b⟩ = env.unmark ((f target).orNullable b) := by
  simp only [canonicalStep, ht]

theorem canonicalStep_of_name (ht : env.aliases.target? n = none) (b : Bool) :
    env.canonicalStep f ⟨n, [], b⟩ = env.unmark ⟨n, [], b⟩ := by
  simp only [canonicalStep, ht]

theorem canonicalStep_of_args {args : List TypeRef} (h : args ≠ []) (b : Bool) :
    env.canonicalStep f ⟨n, args, b⟩ = env.unmark ⟨n, args.map f, b⟩ := by
  cases args with
  | nil => exact absurd rfl h
  | cons t ts => rfl

/-- A step looks only at the types that are called. -/
theorem canonicalStep_congr {t : TypeRef} (h : ∀ u, env.aliases.Calls t u → f u = g u) :
    env.canonicalStep f t = env.canonicalStep g t := by
  obtain ⟨n, args, b⟩ := t
  by_cases has : args = []
  · subst has
    cases ht : env.aliases.target? n with
    | none => rw [canonicalStep_of_name ht, canonicalStep_of_name ht]
    | some target =>
      rw [canonicalStep_of_alias ht, canonicalStep_of_alias ht, h target (.target b ht)]
  · rw [canonicalStep_of_args has, canonicalStep_of_args has,
      List.map_congr_left fun a ha => h a (.arg ha)]

theorem unmark_mk (args : List TypeRef) (b : Bool) :
    env.unmark ⟨n, args, b⟩ = ⟨n, args, env.mark b⟩ := by
  unfold unmark mark
  cases env.ignoreNullability <;> simp

theorem nullable_canonical (h : env.ignoreNullability = true) (t : TypeRef) :
    (env.canonical t).nullable = false := by
  rw [canonical, if_pos h]
  obtain ⟨n, args, b⟩ := (resolve? env.aliases (env.aliases.length + 1) t).getD t
  rfl

theorem unmark_canonical_orNullable (t : TypeRef) (b : Bool) :
    env.unmark ((env.canonical t).orNullable b) = (env.canonical t).orNullable (env.mark b) := by
  unfold unmark mark
  cases hi : env.ignoreNullability with
  | false => simp
  | true => simp [TypeRef.orNullable, nullable_canonical hi]

theorem canonical_eq_step (hac : env.aliases.Acyclic) (t : TypeRef) :
    env.canonical t = env.canonicalStep env.canonical t := by
  obtain ⟨n, args, b⟩ := t
  by_cases has : args = []
  · subst has
    cases ht : env.aliases.target? n with
    | none => rw [canonical_of_name ht, canonicalStep_of_name ht, unmark_mk]
    | some target =>
      rw [canonical_of_alias hac ht, canonicalStep_of_alias ht, unmark_canonical_orNullable]
  · rw [canonical_of_args hac has, canonicalStep_of_args has, unmark_mk]

/-- The canonical form is the one function that obeys the recursion. -/
theorem step_iff_eq_canonical (hac : env.aliases.Acyclic) :
    (∀ t, f t = env.canonicalStep f t) ↔ f = env.canonical := by
  constructor
  · intro hf
    funext t
    induction hac.ends t with
    | intro t _ ih => rw [hf, canonical_eq_step hac, canonicalStep_congr ih]
  · rintro rfl
    exact canonical_eq_step hac

/-- Exactly the tables without circles are accepted. On these the recursion ends for every type and
computes the canonical form, and on the others it goes on for ever on each name of the reported
circle. -/
theorem ofAliases_accepts_where_recursion_ends (table : AliasTable) (ignore : Bool) :
    ((∃ env, ofAliases table ignore = .ok env) ↔
      ∀ n, ¬ Relation.TransGen table.RefersTo n n) ∧
    (∀ env, ofAliases table ignore = .ok env → (∀ t, table.Ends t) ∧
      ∀ f, (∀ t, f t = env.canonicalStep f t) ↔ f = env.canonical) ∧
    (∀ e, ofAliases table ignore = .error e → ∃ path, e = .aliasCycle path ∧ path ≠ [] ∧
      ∀ n ∈ path, table.Endless (.named n)) := by
  refine ⟨?_, ?_, ?_⟩
  · constructor
    · rintro ⟨env, h⟩
      exact (ofAliases_eq_ok_iff.mp h).1
    · intro hac
      exact ⟨_, ofAliases_eq_ok_iff.mpr ⟨hac, rfl⟩⟩
  · intro env h
    obtain ⟨hac, rfl⟩ := ofAliases_eq_ok_iff.mp h
    exact ⟨hac.ends, fun f => step_iff_eq_canonical hac⟩
  · intro e h
    obtain ⟨path, hp, rfl⟩ := ofAliases_eq_error_iff.mp h
    have hcircle := AliasTable.isCircle_of_cycle?_eq_some hp
    refine ⟨path, rfl, ?_, fun n hn => ?_⟩
    · obtain ⟨n, between, rfl, -⟩ := hcircle.closed
      exact List.cons_ne_nil _ _
    · exact AliasTable.endless_of_transGen_self (hcircle.transGen_self hn) false

/-- A circle through an argument, which a later binding of `A` breaks. -/
theorem ofAliases_accepts_where_recursion_ends_once_rebound :
    (ofAliases [("A", .named "B"), ("B", ⟨"List", [.named "A"], false⟩)] true =
        .error (.aliasCycle ["A", "B", "A"]) ∧
      AliasTable.Endless [("A", .named "B"), ("B", ⟨"List", [.named "A"], false⟩)] (.named "B")) ∧
    (ofAliases [("A", .named "B"), ("B", ⟨"List", [.named "A"], false⟩), ("A", .named "int")] true =
        .ok ⟨[("A", .named "B"), ("B", ⟨"List", [.named "A"], false⟩), ("A", .named "int")], true⟩ ∧
      ∀ t, AliasTable.Ends
        [("A", .named "B"), ("B", ⟨"List", [.named "A"], false⟩), ("A", .named "int")] t) := by
  have herror : ofAliases [("A", .named "B"), ("B", ⟨"List", [.named "A"], false⟩)] true =
      .error (.aliasCycle ["A", "B", "A"]) := by cbv
  have hok : ofAliases
      [("A", .named "B"), ("B", ⟨"List", [.named "A"], false⟩), ("A", .named "int")] true =
      .ok ⟨[("A", .named "B"), ("B", ⟨"List", [.named "A"], false⟩), ("A", .named "int")], true⟩ := by
    cbv
  refine ⟨⟨herror, ?_⟩, hok, ((ofAliases_accepts_where_recursion_ends _ true).2.1 _ hok).1⟩
  obtain ⟨path, hp, -, hendless⟩ :=
    (ofAliases_accepts_where_recursion_ends _ true).2.2 _ herror
  cases hp
  exact hendless "B" (by simp)

end Environment

end MatchCover

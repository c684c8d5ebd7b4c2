import Mathlib.Data.List.Sort
import Mathlib.Data.String.Basic
import MatchCover.Proofs.Alias.Termination

/-!
# Only last bindings count

What becomes of a table of aliases depends on the last binding of each name: the search for circles
looks at nothing else (`visit_congr`), and canonical forms are the one solution of equations that
ask for last bindings only (`canonical_congr`).
-/

namespace MatchCover

namespace AliasTable

variable {table table' : AliasTable} {path clear : List String} {name : String}

theorem target?_append (table later : AliasTable) (n : String) :
    target? (table ++ later) n = (later.target? n).or (table.target? n) := by
  induction table with
  | nil => simp [target?]
  | cons b table ih =>
    rw [List.cons_append, target?, target?, ih]
    cases later.target? n <;> simp

theorem target?_filter {p : String → Bool} (h : p name = true) (table : AliasTable) :
    target? (table.filter fun b => p b.1) name = target? table name := by
  induction table with
  | nil => rfl
  | cons b table ih =>
    rw [List.filter_cons, target?]
    split
    · rw [target?, ih]
    · next hb =>
      have hne : b.1 ≠ name := fun hname => hb (hname ▸ h)
      rw [ih]
      cases target? table name <;> simp [hne]

/-- Bindings that are replaced later on can as well be left out. -/
theorem target?_without_replaced (table later : AliasTable) (n : String) :
    target? (table.filter (fun b => (later.target? b.1).isNone) ++ later) n =
      target? (table ++ later) n := by
  rw [target?_append, target?_append]
  cases h : later.target? n with
  | some t => simp
  | none =>
    have hp : (later.target? n).isNone = true := by rw [h, Option.isNone_none]
    rw [target?_filter (p := fun m => (later.target? m).isNone) hp]

/-! ## The search -/

theorem nodup_eraseDups (l : List String) : l.eraseDups.Nodup := by
  induction h : l.length using Nat.strongRecOn generalizing l with
  | ind n ih =>
    subst h
    cases l with
    | nil => simp
    | cons a l =>
      rw [List.eraseDups_cons, List.nodup_cons]
      refine ⟨by simp, ih _ ?_ _ rfl⟩
      exact Nat.lt_succ_of_le (List.length_filter_le _ _)

theorem names_congr (h : ∀ n, table'.target? n = table.target? n) : table'.names = table.names := by
  have hmem (n : String) : n ∈ table'.names ↔ n ∈ table.names := by rw [mem_names, mem_names, h]
  have hnodup (t : AliasTable) : t.names.Nodup :=
    (List.mergeSort_perm _ _).nodup_iff.mpr (nodup_eraseDups _)
  have hperm : table'.names.Perm table.names :=
    (List.perm_ext_iff_of_nodup (hnodup table') (hnodup table)).mpr hmem
  exact hperm.eq_of_pairwise' (List.pairwise_mergeSort' _ _) (List.pairwise_mergeSort' _ _)

theorem references_congr (h : ∀ n, table'.target? n = table.target? n) (name : String) :
    table'.references name = table.references name := by
  simp only [references, h]

theorem visit_congr (h : ∀ n, table'.target? n = table.target? n) :
    table'.visit path clear name = table.visit path clear name := by
  fun_induction visit table path clear name with
  | case1 path clear name hc => rw [visit, if_pos hc]
  | case2 path clear name hc hp => rw [visit, if_neg hc, if_pos hp]
  | case3 path clear name hc hp ht ih =>
    rw [visit, if_neg hc, if_neg hp, if_pos (by rwa [h]), references_congr h,
      foldlM_congr fun n _ clear => ih clear n]
  | case4 path clear name hc hp ht => rw [visit, if_neg hc, if_neg hp, if_neg (by rwa [h])]

theorem cycle?_congr (h : ∀ n, table'.target? n = table.target? n) :
    table'.cycle? = table.cycle? := by
  rw [cycle?, cycle?, names_congr h, foldlM_congr fun n _ clear => visit_congr h]

end AliasTable

/-! ## Canonical forms -/

namespace Environment

variable {env env' : Environment}

theorem canonicalStep_congr_bindings (h : ∀ n, env'.aliases.target? n = env.aliases.target? n)
    (hi : env'.ignoreNullability = env.ignoreNullability) :
    env'.canonicalStep = env.canonicalStep := by
  funext f t
  have hunmark : env'.unmark = env.unmark := by
    funext u
    rw [unmark, unmark, hi]
  obtain ⟨n, args, b⟩ := t
  cases args with
  | nil => simp only [canonicalStep, h, hunmark]
  | cons a as => simp only [canonicalStep, hunmark]

theorem canonical_congr (hac : env.aliases.Acyclic) (hac' : env'.aliases.Acyclic)
    (h : ∀ n, env'.aliases.target? n = env.aliases.target? n)
    (hi : env'.ignoreNullability = env.ignoreNullability) : env'.canonical = env.canonical := by
  refine (step_iff_eq_canonical hac).mp fun t => ?_
  rw [← canonicalStep_congr_bindings h hi]
  exact canonical_eq_step hac' t

/-- Two tables are accepted with the same canonical forms, or refused for the same circle. -/
inductive SameOutcome : Except CheckError Environment → Except CheckError Environment → Prop where
  | accepted {env env' : Environment} : (∀ t, env.canonical t = env'.canonical t) →
    SameOutcome (.ok env) (.ok env')
  | refused (path : List String) :
    SameOutcome (.error (.aliasCycle path)) (.error (.aliasCycle path))

theorem sameOutcome_of_bindings {table table' : AliasTable}
    (h : ∀ n, table'.target? n = table.target? n) (ignore : Bool) :
    SameOutcome (ofAliases table' ignore) (ofAliases table ignore) := by
  have hcycle := AliasTable.cycle?_congr h
  cases hc : table.cycle? with
  | none =>
    have hac := AliasTable.cycle?_eq_none_iff.mp hc
    have hac' := AliasTable.cycle?_eq_none_iff.mp (hcycle.trans hc)
    rw [ofAliases_eq_ok_iff.mpr ⟨hac, rfl⟩, ofAliases_eq_ok_iff.mpr ⟨hac', rfl⟩]
    refine .accepted fun t => ?_
    rw [@canonical_congr ⟨table, ignore⟩ ⟨table', ignore⟩ hac hac' h rfl]
  | some path =>
    rw [ofAliases_eq_error_iff.mpr ⟨path, hc, rfl⟩,
      ofAliases_eq_error_iff.mpr ⟨path, hcycle.trans hc, rfl⟩]
    exact .refused path

/-- A table is refused for a circle that is there: each alias on it stands without arguments in the
target that the one before it is bound to at last, and none is passed twice. Tables that bind each
name to the same target at last have the same outcome. So bindings that later ones replace do not
count, nor do circles through them. -/
theorem outcome_depends_on_last_bindings (table : AliasTable) (ignore : Bool) :
    (∀ e, ofAliases table ignore = .error e →
      ∃ path, e = .aliasCycle path ∧ table.IsCircle path) ∧
    (∀ table', (∀ n, AliasTable.target? table' n = table.target? n) →
      SameOutcome (ofAliases table' ignore) (ofAliases table ignore)) ∧
    ∀ later, SameOutcome
      (ofAliases (table.filter (fun b => (AliasTable.target? later b.1).isNone) ++ later) ignore)
      (ofAliases (table ++ later) ignore) := by
  refine ⟨fun e h => ?_, fun table' h => ?_, fun later => ?_⟩
  · obtain ⟨path, hp, rfl⟩ := ofAliases_eq_error_iff.mp h
    exact ⟨path, rfl, AliasTable.isCircle_of_cycle?_eq_some hp⟩
  · exact sameOutcome_of_bindings h ignore
  · exact sameOutcome_of_bindings (AliasTable.target?_without_replaced table later) ignore

/-- A circle that is gone once `A` is bound again. -/
theorem outcome_depends_on_last_bindings_of_replaced_circle :
    ofAliases [("A", .named "B"), ("B", ⟨"List", [.named "A"], false⟩)] true =
      .error (.aliasCycle ["A", "B", "A"]) ∧
    AliasTable.IsCircle [("A", .named "B"), ("B", ⟨"List", [.named "A"], false⟩)]
      ["A", "B", "A"] ∧
    SameOutcome (ofAliases [("B", ⟨"List", [.named "A"], false⟩), ("A", .named "int")] true)
      (ofAliases [("A", .named "B"), ("B", ⟨"List", [.named "A"], false⟩), ("A", .named "int")]
        true) ∧
    ofAliases [("B", ⟨"List", [.named "A"], false⟩), ("A", .named "int")] true =
      .ok ⟨[("B", ⟨"List", [.named "A"], false⟩), ("A", .named "int")], true⟩ := by
  have herror : ofAliases [("A", .named "B"), ("B", ⟨"List", [.named "A"], false⟩)] true =
      .error (.aliasCycle ["A", "B", "A"]) := by cbv
  obtain ⟨hcircle, -, hreplaced⟩ := outcome_depends_on_last_bindings
    [("A", .named "B"), ("B", ⟨"List", [.named "A"], false⟩)] true
  obtain ⟨path, hp, hpath⟩ := hcircle _ herror
  cases hp
  exact ⟨herror, hpath, hreplaced [("A", .named "int")], by cbv⟩

end Environment

end MatchCover

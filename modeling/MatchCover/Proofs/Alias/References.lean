import Mathlib.Data.List.Chain
import Mathlib.Data.List.Perm.Subperm
import Mathlib.Data.List.Permutation
import MatchCover.Alias.Cycle
import MatchCover.Proofs.TypeRef.Structure

/-!
# References between aliases

An alias refers to the aliases that its target mentions without arguments. A path of references
that passes no alias twice is no longer than the table; a circle comes back to its start. Without
circles every path is of the first kind.
-/

namespace MatchCover.AliasTable

/-- The target of `n` mentions the alias `m`. -/
def RefersTo (table : AliasTable) (n m : String) : Prop :=
  ∃ target, table.target? n = some target ∧ target.Mentions m ∧ (table.target? m).isSome = true

/-- No alias leads back to itself. -/
def Acyclic (table : AliasTable) : Prop := ∀ n, ¬ Relation.TransGen table.RefersTo n n

/-- A path of references that ends where it starts and passes no other alias twice. -/
structure IsCircle (table : AliasTable) (path : List String) : Prop where
  closed : ∃ n between, path = n :: between ++ [n] ∧ (n :: between).Nodup
  refers : path.IsChain table.RefersTo

variable {table : AliasTable} {n m : String}

theorem mem_references : m ∈ table.references n ↔ table.RefersTo n m := by
  unfold references RefersTo
  rw [List.mem_filter]
  cases table.target? n with
  | none => simp
  | some target =>
    rw [Option.elim_some, TypeRef.mem_leaves]
    constructor
    · intro h
      exact ⟨target, rfl, h⟩
    · rintro ⟨_, ⟨⟩, h⟩
      exact h

theorem mem_names : n ∈ table.names ↔ (table.target? n).isSome = true := by
  rw [names, List.mem_mergeSort, List.mem_eraseDups, isSome_target?]

theorem mem_of_target?_eq_some {target : TypeRef} (h : table.target? n = some target) :
    (n, target) ∈ table := by
  induction table with
  | nil => cases h
  | cons b rest ih =>
    rw [target?] at h
    split at h
    · next hrest =>
      cases h
      exact List.mem_cons_of_mem _ (ih hrest)
    · split at h
      · next hname =>
        cases h
        subst hname
        exact List.mem_cons_self
      · cases h

theorem RefersTo.isSome_left (h : table.RefersTo n m) : (table.target? n).isSome = true := by
  obtain ⟨target, ht, -⟩ := h
  rw [ht, Option.isSome_some]

theorem RefersTo.isSome_right (h : table.RefersTo n m) : (table.target? m).isSome = true := by
  obtain ⟨target, -, -, hm⟩ := h
  exact hm

/-- There are no more aliases than bindings. -/
theorem length_le_of_nodup {path : List String} (hnd : path.Nodup)
    (hal : ∀ n ∈ path, (table.target? n).isSome = true) : path.length ≤ table.length := by
  have hsub : path ⊆ table.map (·.1) := fun n hn => (isSome_target? table n).mp (hal n hn)
  have hle := (hnd.subperm hsub).length_le
  rwa [List.length_map] at hle

/-- Along a path of references each alias leads to all that come after it. -/
theorem pairwise_of_isChain {path : List String} (h : path.IsChain table.RefersTo) :
    path.Pairwise (Relation.TransGen table.RefersTo) :=
  List.isChain_iff_pairwise.mp (h.imp fun _ _ => Relation.TransGen.single)

theorem isSome_of_isChain {path : List String} (h : (n :: path).IsChain table.RefersTo)
    (hn : (table.target? n).isSome = true) : ∀ m ∈ n :: path, (table.target? m).isSome = true := by
  induction path generalizing n with
  | nil =>
    intro m hm
    rwa [List.mem_singleton.mp hm]
  | cons k path ih =>
    rw [List.isChain_cons_cons] at h
    exact List.forall_mem_cons.mpr ⟨hn, ih h.2 h.1.isSome_right⟩

theorem Acyclic.nodup (hac : table.Acyclic) {path : List String}
    (h : path.IsChain table.RefersTo) : path.Nodup := by
  refine (pairwise_of_isChain h).imp ?_
  rintro a _ hab rfl
  exact hac a hab

/-- Without circles a path of references is shorter than the table. -/
theorem Acyclic.length_lt (hac : table.Acyclic) {path : List String}
    (h : (n :: path).IsChain table.RefersTo) (hn : (table.target? n).isSome = true) :
    path.length < table.length :=
  length_le_of_nodup (hac.nodup h) (isSome_of_isChain h hn)

theorem IsCircle.transGen_self {path : List String} (h : table.IsCircle path) (hm : m ∈ path) :
    Relation.TransGen table.RefersTo m m := by
  obtain ⟨⟨n, between, rfl, -⟩, hc⟩ := h
  have hp := pairwise_of_isChain hc
  rw [List.pairwise_append, List.pairwise_cons] at hp
  obtain ⟨⟨hfirst, -⟩, -, hlast⟩ := hp
  rw [List.mem_append, List.mem_cons, List.mem_singleton] at hm
  have hn : Relation.TransGen table.RefersTo n n :=
    hlast n List.mem_cons_self n (List.mem_singleton_self n)
  rcases hm with (rfl | hm) | rfl
  · exact hn
  · exact (hlast m (List.mem_cons_of_mem _ hm) n (List.mem_singleton_self n)).trans (hfirst m hm)
  · exact hn

theorem IsCircle.not_acyclic {path : List String} (h : table.IsCircle path) :
    ¬ table.Acyclic := by
  obtain ⟨n, between, rfl, -⟩ := h.closed
  exact fun hac => hac n (h.transGen_self (by simp))

end MatchCover.AliasTable

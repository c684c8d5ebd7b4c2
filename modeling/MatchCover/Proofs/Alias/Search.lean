import Mathlib.Data.List.Nodup
import Mathlib.Data.List.TakeWhile
import MatchCover.Proofs.Alias.References
import MatchCover.Proofs.Except

/-!
# The search for a circle

`visit` keeps two promises. A name is only called clear if no endless path of references starts at
it, and a path that is reported is a circle. The search goes deeper only to an alias that is not on
the path, so that both are proved along its own recursion.
-/

namespace MatchCover.AliasTable

/-- No endless path of references starts at the alias. -/
def Grounded (table : AliasTable) (n : String) : Prop := Acc (fun m n => table.RefersTo n m) n

/-- Names were added to those that are clear, among them the ones of `l`. -/
structure Explored (table : AliasTable) (before after l : List String) : Prop where
  grounded : ∀ n ∈ after, table.Grounded n
  keeps : before ⊆ after
  covers : ∀ n ∈ l, n ∈ after

variable {table : AliasTable} {clear clear' path : List String} {name : String}

theorem Explored.fold {ε : Type} {f : List String → String → Except ε (List String)}
    {l : List String}
    (step : ∀ n ∈ l, ∀ before after, (∀ m ∈ before, table.Grounded m) → f before n = .ok after →
      table.Explored before after [n])
    (hg : ∀ n ∈ clear, table.Grounded n) (h : l.foldlM f clear = .ok clear') :
    table.Explored clear clear' l := by
  induction l generalizing clear with
  | nil =>
    cases h
    exact ⟨hg, List.Subset.refl _, nofun⟩
  | cons n l ih =>
    rw [List.foldlM_cons] at h
    obtain ⟨mid, hmid, h⟩ := bind_eq_ok.mp h
    have h1 := step n List.mem_cons_self clear mid hg hmid
    have h2 := ih (fun m hm => step m (List.mem_cons_of_mem _ hm)) h1.grounded h
    refine ⟨h2.grounded, List.Subset.trans h1.keeps h2.keeps, List.forall_mem_cons.mpr ⟨?_, h2.covers⟩⟩
    exact h2.keeps (h1.covers n (List.mem_singleton_self n))

/-! ## Names that are clear -/

theorem visit_ok (h : table.visit path clear name = .ok clear')
    (hname : (table.target? name).isSome = true) (hg : ∀ n ∈ clear, table.Grounded n) :
    table.Explored clear clear' [name] := by
  fun_induction visit table path clear name generalizing clear' with
  | case1 path clear name hc =>
    cases h
    exact ⟨hg, List.Subset.refl _, by simpa using hc⟩
  | case2 => cases h
  | case3 path clear name _ _ _ ih =>
    obtain ⟨mid, hmid, h⟩ := bind_eq_ok.mp h
    cases h
    have hrefs : table.Explored clear mid (table.references name) :=
      Explored.fold (fun n hn before after hb hv => ih before n hv
        (mem_references.mp hn).isSome_right hb) hg hmid
    -- all references of the name are clear now, and so is the name
    have hname : table.Grounded name :=
      Acc.intro name fun m hm => hrefs.grounded m (hrefs.covers m (mem_references.mpr hm))
    exact ⟨List.forall_mem_cons.mpr ⟨hname, hrefs.grounded⟩,
      List.Subset.trans hrefs.keeps (List.subset_cons_self _ _), by simp⟩
  | case4 path clear name _ _ ht => exact absurd hname ht

theorem grounded_of_cycle?_eq_none (h : table.cycle? = none) (n : String) : table.Grounded n := by
  unfold cycle? at h
  split at h
  · next clear hc =>
    have hall : table.Explored [] clear table.names := by
      refine Explored.fold ?_ nofun hc
      intro m hm before after hb hv
      exact visit_ok hv (mem_names.mp hm) hb
    refine Acc.intro n fun m hm => hall.grounded m (hall.covers m ?_)
    exact mem_names.mpr hm.isSome_right
  · cases h

/-! ## Circles -/

theorem isCircle_of_mem (hnd : path.Nodup) (hc : (path ++ [name]).IsChain table.RefersTo)
    (hp : name ∈ path) : table.IsCircle (path.dropWhile (· != name) ++ [name]) := by
  have hsuf : path.dropWhile (· != name) <:+ path := List.dropWhile_suffix _
  have hne : path.dropWhile (· != name) ≠ [] := by
    rw [ne_eq, List.dropWhile_eq_nil_iff]
    intro hall
    simpa using hall name hp
  obtain ⟨n, between, hb⟩ := List.exists_cons_of_ne_nil hne
  have hn : n = name := by
    have hhead := List.head?_dropWhile_not (· != name) path
    rw [hb] at hhead
    simpa using hhead
  subst hn
  refine ⟨⟨n, between, by rw [hb], ?_⟩, ?_⟩
  · rw [← hb]
    exact hnd.sublist hsuf.sublist
  · obtain ⟨front, hfront⟩ := hsuf
    rw [← hfront, List.append_assoc] at hc
    exact hc.right_of_append

theorem visit_error {circle : List String}
    (h : table.visit path clear name = .error circle) (hnd : path.Nodup)
    (hc : (path ++ [name]).IsChain table.RefersTo) : table.IsCircle circle := by
  fun_induction visit table path clear name with
  | case1 => cases h
  | case2 path clear name _ hp =>
    cases h
    exact isCircle_of_mem hnd hc hp
  | case3 path clear name _ hp _ ih =>
    rcases bind_eq_error.mp h with h | ⟨_, -, h⟩
    · obtain ⟨n, hn, before, hv⟩ := exists_of_foldlM_eq_error h
      have hnd' : (path ++ [name]).Nodup := by simpa using hnd.concat hp
      refine ih before n hv hnd' (hc.append (List.isChain_singleton n) ?_)
      intro a ha b hb
      rw [List.getLast?_concat, Option.mem_some_iff] at ha
      rw [List.head?_cons, Option.mem_some_iff] at hb
      subst ha hb
      exact mem_references.mp hn
    · cases h
  | case4 => cases h

theorem isCircle_of_cycle?_eq_some (h : table.cycle? = some path) : table.IsCircle path := by
  unfold cycle? at h
  split at h
  · cases h
  · next circle hc =>
    cases h
    obtain ⟨n, -, before, hv⟩ := exists_of_foldlM_eq_error hc
    exact visit_error hv List.nodup_nil (List.isChain_singleton n)

end MatchCover.AliasTable

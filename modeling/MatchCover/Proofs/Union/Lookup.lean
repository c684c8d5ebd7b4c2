import Mathlib.Data.List.Sort
import Mathlib.Data.String.Basic
import MatchCover.Proofs.Text.EditDistance
import MatchCover.Proofs.Union.Declarations

/-!
# Looking a union up by its name

The name of a declared union finds its declaration. Any other name is refused with the declared name
that is nearest to it, if one is near enough; since the candidates are sorted, that is the first in
the order of code points among equally near ones (`Text.closest?_eq_some_iff`). So the answer
depends on which unions are declared, and not on the order of their declarations.
-/

namespace MatchCover

/-! ## The nearest candidate -/

namespace Text

/-- No candidate is nearer to the name, and none that is as near comes first. -/
def IsNearest (name : String) (candidates : List String) (c : String) : Prop :=
  c ∈ candidates ∧ ∀ e ∈ candidates,
    editDistance name.toList c.toList < editDistance name.toList e.toList ∨
      editDistance name.toList c.toList = editDistance name.toList e.toList ∧ c ≤ e

instance (name : String) (candidates : List String) (c : String) :
    Decidable (IsNearest name candidates c) :=
  inferInstanceAs (Decidable (_ ∧ _))

variable {name c : String} {candidates candidates' : List String} {threshold : Nat}

theorem IsNearest.unique {c' : String} (h : IsNearest name candidates c)
    (h' : IsNearest name candidates c') : c = c' := by
  rcases h.2 c' h'.1 with hlt | ⟨heq, hle⟩
  · rcases h'.2 c h.1 with hlt' | ⟨heq', -⟩ <;> omega
  · rcases h'.2 c h.1 with hlt' | ⟨-, hle'⟩
    · omega
    · exact le_antisymm hle hle'

theorem isNearest_congr (h : ∀ e, e ∈ candidates ↔ e ∈ candidates') :
    IsNearest name candidates c ↔ IsNearest name candidates' c := by
  simp only [IsNearest, h]

theorem closest?_eq_minOn? (name : String) (candidates : List String) (threshold : Nat) :
    closest? name candidates threshold =
      (candidates.filter fun c => editDistance name.toList c.toList ≤ threshold).minOn?
        fun c => editDistance name.toList c.toList := by
  unfold closest?
  generalize candidates.filter (fun c => editDistance name.toList c.toList ≤ threshold) = near
  cases near with
  | nil => rfl
  | cons b near =>
    rw [List.foldl_cons, List.minOn?]
    induction near generalizing b with
    | nil => rfl
    | cons e near ih =>
      rw [List.foldl_cons, List.foldl_cons, ← ih, minOn_eq_if]
      by_cases hlt : editDistance name.toList e.toList < editDistance name.toList b.toList
      · simp only [hlt, if_true, Nat.not_le.mpr hlt, if_false]
      · simp only [hlt, if_false, Nat.not_lt.mp hlt, if_true]

/-- The first of the nearest candidates of a sorted list is the first of them in the order. -/
theorem isNearest_of_minOn? (hs : candidates.Pairwise (· ≤ ·))
    (h : (candidates.minOn? fun c => editDistance name.toList c.toList) = some c) :
    IsNearest name candidates c := by
  induction candidates generalizing c with
  | nil => cases h
  | cons x l ih =>
    obtain ⟨hx, hs⟩ := List.pairwise_cons.mp hs
    rw [List.minOn?_cons, Option.some.injEq] at h
    cases hm : l.minOn? fun c => editDistance name.toList c.toList with
    | none =>
      have hl : l = [] := by
        rwa [← Option.not_isSome_iff_eq_none, List.isSome_minOn?_iff, not_not] at hm
      rw [hm, Option.elim_none] at h
      subst hl h
      simp [IsNearest]
    | some m =>
      obtain ⟨hmem, hleast⟩ := ih hs hm
      rw [hm, Option.elim_some, minOn_eq_if] at h
      split at h
      · next hle =>
        subst h
        refine ⟨List.mem_cons_self, List.forall_mem_cons.mpr ⟨.inr ⟨rfl, le_refl _⟩, ?_⟩⟩
        intro e he
        have hme : editDistance name.toList m.toList ≤ editDistance name.toList e.toList := by
          rcases hleast e he with hlt | ⟨heq, -⟩ <;> omega
        rcases Nat.lt_or_eq_of_le (hle.trans hme) with hlt | heq
        · exact .inl hlt
        · exact .inr ⟨heq, hx e he⟩
      · next hlt =>
        subst h
        exact ⟨List.mem_cons_of_mem _ hmem,
          List.forall_mem_cons.mpr ⟨.inl (Nat.not_le.mp hlt), hleast⟩⟩

theorem closest?_eq_none_iff :
    closest? name candidates threshold = none ↔
      ∀ c ∈ candidates, threshold < editDistance name.toList c.toList := by
  rw [closest?_eq_minOn?, ← Option.not_isSome_iff_eq_none, List.isSome_minOn?_iff]
  simp [List.filter_eq_nil_iff]

theorem closest?_eq_some_iff (hs : candidates.Pairwise (· ≤ ·)) :
    closest? name candidates threshold = some c ↔
      IsNearest name candidates c ∧ editDistance name.toList c.toList ≤ threshold := by
  have hsome {c : String} (h : closest? name candidates threshold = some c) :
      IsNearest name candidates c ∧ editDistance name.toList c.toList ≤ threshold := by
    rw [closest?_eq_minOn?] at h
    obtain ⟨hmem, hleast⟩ := isNearest_of_minOn? (hs.filter _) h
    obtain ⟨hc, hle⟩ := List.mem_filter.mp hmem
    rw [decide_eq_true_eq] at hle
    refine ⟨⟨hc, fun e he => ?_⟩, hle⟩
    by_cases hnear : editDistance name.toList e.toList ≤ threshold
    · exact hleast e (List.mem_filter.mpr ⟨he, by simpa using hnear⟩)
    · exact .inl (by omega)
  refine ⟨hsome, fun ⟨h, hle⟩ => ?_⟩
  cases hc : closest? name candidates threshold with
  | none =>
    have hlt := closest?_eq_none_iff.mp hc c h.1
    omega
  | some c' => rw [(hsome hc).1.unique h]

/-- Sorting makes the answer depend on the members of the list alone. -/
theorem closest?_mergeSort_congr (h : ∀ e, e ∈ candidates ↔ e ∈ candidates') :
    closest? name (candidates.mergeSort (· ≤ ·)) threshold =
      closest? name (candidates'.mergeSort (· ≤ ·)) threshold := by
  ext c
  rw [closest?_eq_some_iff (List.pairwise_mergeSort' _ _),
    closest?_eq_some_iff (List.pairwise_mergeSort' _ _), isNearest_congr]
  simpa only [List.mem_mergeSort] using h

end Text

/-! ## The answer of the registry -/

namespace Registry

variable {r r' : Registry} {d : UnionDecl} {name : String} {span : Option Span}

theorem lookup_of_find? (h : r.find? name = some d) : r.lookup name span = .ok d := by
  simp only [lookup, h, pure_eq_ok]

theorem lookup_of_find?_eq_none (h : r.find? name = none) :
    r.lookup name span = .error (.unknownUnion name (suggestionHint (Text.closest? name
      ((r.declared.map (·.name)).mergeSort (· ≤ ·)) slipDistance)) span) := by
  simp only [lookup, h, throw_eq_error]

theorem find?_eq_none_iff : r.find? name = none ↔ ∀ d ∈ r.declared, d.name ≠ name := by
  simp [find?]

theorem suggestionHint_eq_empty_iff {near : Option String} :
    suggestionHint near = "" ↔ near = none := by
  cases near with
  | none => exact iff_of_true rfl rfl
  | some c =>
    refine iff_of_false (fun h => ?_) (Option.some_ne_none c)
    obtain ⟨-, hlast⟩ := String.append_eq_empty_iff.mp h
    exact absurd hlast (by decide)

/-- Registries that declare the same unions give the same answers. -/
theorem lookup_congr (h : ∀ d, d ∈ r.declared ↔ d ∈ r'.declared)
    (hnd : (r.declared.map (·.name)).Nodup) (hnd' : (r'.declared.map (·.name)).Nodup) :
    r.lookup name span = r'.lookup name span := by
  have hfind : r.find? name = r'.find? name := by
    ext d
    rw [find?_eq_some_iff hnd, find?_eq_some_iff hnd', h]
  cases hd : r.find? name with
  | some d => rw [lookup_of_find? hd, lookup_of_find? (hfind ▸ hd)]
  | none =>
    have hnames (e : String) : e ∈ r.declared.map (·.name) ↔ e ∈ r'.declared.map (·.name) := by
      simp only [List.mem_map, h]
    rw [lookup_of_find?_eq_none hd, lookup_of_find?_eq_none (hfind ▸ hd),
      Text.closest?_mergeSort_congr hnames]

theorem ofDecls_perm {generic : List String} {decls decls' : List UnionDecl} {env : Environment}
    (hp : decls'.Perm decls) (h : ofDecls generic decls env = .ok r) :
    ofDecls generic decls' env = .ok ⟨generic, decls'⟩ := by
  obtain ⟨hdecls, hnd, -⟩ := ofDecls_eq_ok_iff.mp h
  refine ofDecls_eq_ok_iff.mpr ⟨fun d hd => hdecls d (hp.mem_iff.mp hd), ?_, rfl⟩
  exact (hp.map _).nodup_iff.mpr hnd

/-- What a registry answers to a name. A declared union is given as it is declared. For any other
name the error tells the name and the place, and proposes the nearest declared name, the first in
the order of code points among equally near ones, unless all are more than two edits away. The
declarations are accepted in any order, and the answer is always the same. -/
theorem lookup_finds_or_proposes {generic : List String} {decls : List UnionDecl}
    {env : Environment} (h : ofDecls generic decls env = .ok r) (name : String)
    (span : Option Span) :
    (∀ d ∈ decls, d.name = name → r.lookup name span = .ok d) ∧
    ((∀ d ∈ decls, d.name ≠ name) →
      ∃ hint, r.lookup name span = .error (.unknownUnion name hint span) ∧
        (∀ d ∈ decls, IsLeast {n | Text.CharEdits n name.toList d.name.toList}
          (Text.editDistance name.toList d.name.toList)) ∧
        (hint = "" ↔ ∀ d ∈ decls, 2 < Text.editDistance name.toList d.name.toList) ∧
        (hint ≠ "" → ∃ d ∈ decls, Text.IsNearest name (decls.map (·.name)) d.name ∧
          hint = " (did you mean `" ++ d.name ++ "`?)")) ∧
    ∀ decls', decls'.Perm decls → ∃ r', ofDecls generic decls' env = .ok r' ∧
      r'.lookup name span = r.lookup name span := by
  obtain ⟨-, hnd, rfl⟩ := ofDecls_eq_ok_iff.mp h
  refine ⟨?_, ?_, ?_⟩
  · intro d hd hname
    exact lookup_of_find? ((find?_eq_some_iff (r := ⟨generic, decls⟩) hnd).mpr ⟨hd, hname⟩)
  · intro hnone
    refine ⟨_, lookup_of_find?_eq_none (find?_eq_none_iff.mpr hnone),
      fun d _ => Text.isLeast_editDistance _ _, ?_, ?_⟩
    · rw [suggestionHint_eq_empty_iff, Text.closest?_eq_none_iff]
      simp [slipDistance]
    · rw [ne_eq, suggestionHint_eq_empty_iff]
      intro hne
      obtain ⟨c, hc⟩ := Option.ne_none_iff_exists'.mp hne
      obtain ⟨hnear, -⟩ := (Text.closest?_eq_some_iff (List.pairwise_mergeSort' _ _)).mp hc
      have hnear := (Text.isNearest_congr fun e => List.mem_mergeSort).mp hnear
      obtain ⟨d, hd, rfl⟩ := List.mem_map.mp hnear.1
      exact ⟨d, hd, hnear, congrArg suggestionHint hc⟩
  · intro decls' hp
    refine ⟨_, ofDecls_perm hp h, lookup_congr (fun d => hp.mem_iff) ?_ hnd⟩
    exact (hp.map _).nodup_iff.mpr hnd

/-- Two declared names are one edit away from a slip; the one that is proposed is declared last. -/
theorem lookup_finds_or_proposes_of_equally_near :
    ∃ (decls : List UnionDecl) (r : Registry),
      decls = [⟨"Result", [.named "Ok"], none⟩, ⟨"Reset", [.named "Now"], none⟩] ∧
      ofDecls [] decls {} = .ok r ∧
      r.lookup "Result" none = .ok ⟨"Result", [.named "Ok"], none⟩ ∧
      r.lookup "Resut" none =
        .error (.unknownUnion "Resut" " (did you mean `Reset`?)" none) ∧
      ∃ r', ofDecls [] decls.reverse {} = .ok r' ∧
        r'.lookup "Resut" none = r.lookup "Resut" none := by
  let decls : List UnionDecl :=
    [⟨"Result", [.named "Ok"], none⟩, ⟨"Reset", [.named "Now"], none⟩]
  have hr : ofDecls [] decls {} = .ok ⟨[], decls⟩ := by cbv
  obtain ⟨-, hproposes, hperm⟩ := lookup_finds_or_proposes hr "Resut" none
  obtain ⟨hint, hlookup, -, hempty, hnear⟩ := hproposes (by decide)
  obtain ⟨d, -, hd, hhint⟩ := hnear (fun h => absurd (hempty.mp h) (by decide +kernel))
  have hname : d.name = "Reset" := hd.unique (by decide +kernel)
  rw [hhint, hname] at hlookup
  have hdeclared := (lookup_finds_or_proposes hr "Result" none).1
    ⟨"Result", [.named "Ok"], none⟩ (by decide) rfl
  exact ⟨decls, _, rfl, hr, hdeclared, hlookup, hperm _ decls.reverse_perm⟩

end Registry

end MatchCover

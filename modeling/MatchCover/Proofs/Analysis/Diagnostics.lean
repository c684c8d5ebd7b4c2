import MatchCover.Command.Run
import MatchCover.Proofs.Except

/-!
# What an analysis finds

An analysis is one run over the matches, and both commands that need it perform the same
(`Input.analyze_result`). What it says of a match follows from the report on that match: `missing?`
gives the variants that it reports as missing, and `filterMap_fix_diagnose` the one fix for them.
-/

namespace MatchCover

variable {config : Config} {d : Document} {a : Analyzer} {m : MatchExpr} {e : CheckError}
  {ds : List Diagnostic} {missing : List TypeRef}

namespace Analyzer

/-! ## One match -/

theorem report_eq_some_iff {u : UnionType} {r : Coverage.Report TypeRef} :
    a.report m = .ok (some (u, r)) ↔ m.arms ≠ [] ∧ a.unionOf m = .ok (some u) ∧
      r = Coverage.analyze a.env.canonical u.variants (m.arms.map (·.pattern.coverageArm)) := by
  unfold report
  by_cases harms : m.arms = []
  · simp [harms, bind, Except.bind]
  · rw [if_neg (by simpa using harms), and_iff_right harms, bind_eq_ok]
    constructor
    · rintro ⟨union, hunion, h⟩
      obtain ⟨v, rfl, hv⟩ := Option.map_eq_some_iff.mp (Except.ok.inj h)
      cases hv
      exact ⟨hunion, rfl⟩
    · rintro ⟨hunion, rfl⟩
      exact ⟨_, hunion, rfl⟩

theorem diagnose_eq_ok_iff :
    a.diagnose m = .ok ds ↔ (a.report m = .ok none ∧ ds = []) ∨
      ∃ u r, a.report m = .ok (some (u, r)) ∧
        ds = a.missingDiagnostics m u r ++ a.unreachableDiagnostics m r := by
  unfold diagnose
  rw [bind_eq_ok]
  constructor
  · rintro ⟨report, hreport, h⟩
    cases report with
    | none => exact .inl ⟨hreport, (Except.ok.inj h).symm⟩
    | some found => exact .inr ⟨_, _, hreport, (Except.ok.inj h).symm⟩
  · rintro (⟨hreport, rfl⟩ | ⟨u, r, hreport, rfl⟩)
    · exact ⟨_, hreport, rfl⟩
    · exact ⟨_, hreport, rfl⟩

theorem diagnose_eq_error_iff : a.diagnose m = .error e ↔ a.report m = .error e := by
  unfold diagnose
  rw [bind_eq_error]
  constructor
  · rintro (h | ⟨report, -, h⟩)
    · exact h
    · cases report <;> cases h
  · exact .inl

/-- The missing variants of a match over a union, where missing variants are reported. -/
def missing? (a : Analyzer) (m : MatchExpr) : Option (List TypeRef) :=
  match a.config.levels.missingCases.severity?, a.report m with
  | some _, .ok (some (_, ⟨.missing variants, _, _⟩)) => some variants
  | _, _ => none

theorem exists_severity?_iff {level : Level} :
    (∃ severity, level.severity? = some severity) ↔ level ≠ .off := by
  cases level <;> simp [Level.severity?]

theorem missing?_eq_some_iff :
    a.missing? m = some missing ↔ a.config.levels.missingCases ≠ .off ∧
      ∃ u r, a.report m = .ok (some (u, r)) ∧ r.verdict = .missing missing := by
  rw [← exists_severity?_iff, missing?]
  constructor
  · intro h
    split at h
    · next hseverity hreport =>
      cases h
      exact ⟨⟨_, hseverity⟩, _, _, hreport, rfl⟩
    · cases h
  · rintro ⟨⟨severity, hseverity⟩, u, ⟨verdict, unreachable, literalOnly⟩, hreport, rfl⟩
    rw [hseverity, hreport]

theorem mem_missingDiagnostics {u : UnionType} {r : Coverage.Report TypeRef} {x : Diagnostic}
    (hx : x ∈ a.missingDiagnostics m u r) :
    x.span = m.span ∧ ∃ missing, x.fix = some (Fix.suggest m missing a.config.fixStyle) := by
  unfold missingDiagnostics at hx
  split at hx
  · obtain rfl := List.mem_singleton.mp hx
    exact ⟨rfl, _, rfl⟩
  · cases hx

theorem mem_unreachableDiagnostics {r : Coverage.Report TypeRef} {x : Diagnostic}
    (hx : x ∈ a.unreachableDiagnostics m r) :
    (∃ arm ∈ m.arms, x.span = arm.span.or m.span) ∧ x.fix = none := by
  unfold unreachableDiagnostics at hx
  split at hx
  · obtain ⟨i, -, hx⟩ := List.mem_filterMap.mp hx
    obtain ⟨arm, harm, rfl⟩ := Option.map_eq_some_iff.mp hx
    exact ⟨⟨arm, List.mem_of_getElem? harm, rfl⟩, rfl⟩
  · cases hx

/-- There is one fix if missing variants are reported, and else none. -/
theorem filterMap_fix_diagnose (h : a.diagnose m = .ok ds) :
    ds.filterMap (·.fix) =
      ((a.missing? m).map fun missing => Fix.suggest m missing a.config.fixStyle).toList := by
  rcases diagnose_eq_ok_iff.mp h with ⟨hreport, rfl⟩ | ⟨u, r, hreport, rfl⟩
  · simp [missing?, hreport]
  · have hunreachable : (a.unreachableDiagnostics m r).filterMap (·.fix) = [] := by
      rw [List.filterMap_eq_nil_iff]
      intro x hx
      exact (mem_unreachableDiagnostics hx).2
    rw [List.filterMap_append, hunreachable, List.append_nil]
    obtain ⟨verdict, unreachable, literalOnly⟩ := r
    simp only [missing?, missingDiagnostics, hreport]
    cases a.config.levels.missingCases.severity? with
    | none => rfl
    | some severity => cases verdict <;> rfl

/-! ## The whole document -/

theorem ofDocument_eq_ok_iff : ofDocument config d = .ok a ↔ d.checkSpans none = .ok () ∧
    Environment.ofAliases (config.aliases ++ d.aliases.map fun b => (b.name, b.target))
      config.ignoreNullability = .ok a.env ∧
    Registry.ofDecls config.generic d.unions a.env = .ok a.registry ∧ a.config = config := by
  unfold ofDocument
  constructor
  · intro h
    obtain ⟨_, hspans, h⟩ := bind_eq_ok.mp h
    obtain ⟨env, henv, h⟩ := bind_eq_ok.mp h
    obtain ⟨registry, hregistry, h⟩ := bind_eq_ok.mp h
    cases h
    exact ⟨hspans, henv, hregistry, rfl⟩
  · rintro ⟨hspans, henv, hregistry, rfl⟩
    exact bind_eq_ok.mpr ⟨_, hspans, bind_eq_ok.mpr ⟨_, henv, bind_eq_ok.mpr ⟨_, hregistry, rfl⟩⟩⟩

theorem config_of_ofDocument (h : ofDocument config d = .ok a) : a.config = config :=
  (ofDocument_eq_ok_iff.mp h).2.2.2

end Analyzer

theorem analyzeDocument_eq_ok_iff :
    analyzeDocument config d = .ok ds ↔ ∃ a found, Analyzer.ofDocument config d = .ok a ∧
      List.Forall₂ (fun m xs => a.diagnose m = .ok xs) d.expressions found ∧
      ds = found.flatten := by
  unfold analyzeDocument
  simp only [bind_eq_ok, mapM_eq_ok_iff, pure_eq_ok, Except.ok.injEq, exists_and_left]
  simp only [eq_comm]

theorem exists_diagnose_of_mem {ms : List MatchExpr} {found : List (List Diagnostic)}
    {x : Diagnostic} (h : List.Forall₂ (fun m xs => a.diagnose m = .ok xs) ms found)
    (hx : x ∈ found.flatten) : ∃ m ∈ ms, ∃ xs, a.diagnose m = .ok xs ∧ x ∈ xs := by
  obtain ⟨xs, hxs, hx⟩ := List.mem_flatten.mp hx
  obtain ⟨m, hm, hdiagnose⟩ := exists_of_mem_of_forall₂ h hxs
  exact ⟨m, hm, xs, hdiagnose, hx⟩

theorem mem_flatten_iff_of_diagnose {ms : List MatchExpr} {found : List (List Diagnostic)}
    {x : Diagnostic} (h : List.Forall₂ (fun m xs => a.diagnose m = .ok xs) ms found) :
    x ∈ found.flatten ↔ ∃ m ∈ ms, ∃ xs, a.diagnose m = .ok xs ∧ x ∈ xs := by
  refine ⟨exists_diagnose_of_mem h, ?_⟩
  rintro ⟨m, hm, xs, hxs, hx⟩
  induction h with
  | nil => cases hm
  | cons hys _ ih =>
    rw [List.flatten_cons, List.mem_append]
    rcases List.mem_cons.mp hm with rfl | hm
    · rw [hxs] at hys
      cases hys
      exact .inl hx
    · exact .inr (ih hm)

theorem exists_of_analyzeDocument_eq_error (h : analyzeDocument config d = .error e) :
    Analyzer.ofDocument config d = .error e ∨
      ∃ a, Analyzer.ofDocument config d = .ok a ∧ ∃ m ∈ d.expressions, a.diagnose m = .error e := by
  rcases bind_eq_error.mp h with h | ⟨a, ha, h⟩
  · exact .inl h
  · rcases bind_eq_error.mp h with h | ⟨found, -, h⟩
    · exact .inr ⟨a, ha, exists_of_mapM_eq_error h⟩
    · cases h

namespace Input

theorem diagnoseFrom_result (a : Analyzer) (number : Nat) (ms : List MatchExpr) :
    (diagnoseFrom a number ms).result = (ms.mapM a.diagnose).map List.flatten := by
  induction ms generalizing number with
  | nil => rfl
  | cons m ms ih =>
    rw [diagnoseFrom, List.mapM_cons]
    cases a.diagnose m with
    | error e => rfl
    | ok found =>
      dsimp only
      rw [ih]
      cases ms.mapM a.diagnose <;> rfl

/-- The commands find out what the analysis of the document does. -/
theorem analyze_result (i : Input) : i.analyze.result = analyzeDocument i.config i.document := by
  unfold analyze analyzeDocument
  cases Analyzer.ofDocument i.config i.document with
  | error e => rfl
  | ok a =>
    dsimp only
    rw [diagnoseFrom_result]
    cases hfound : i.document.expressions.mapM a.diagnose <;>
      simp [hfound, bind, Except.bind, Except.map]

def edits (source : String) (ds : List Diagnostic) : List Edit :=
  (ds.filterMap (·.fix)).filterMap (Edit.ofFix? · source)

theorem fixed_of_source {i : Input} {source : String} (h : i.source = some source) :
    i.fixed = (do
      let ds ← analyzeDocument i.config i.document
      Edit.applyAll source (edits source ds)).mapError i.failure := by
  rw [fixed, h, analyze_result]
  cases analyzeDocument i.config i.document <;> rfl

end Input

end MatchCover

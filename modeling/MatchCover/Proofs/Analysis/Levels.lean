import MatchCover.Proofs.Analysis.Diagnostics
import MatchCover.Proofs.Coverage.Shadowing

/-!
# Levels

The levels of a configuration filter what an analysis finds, and do nothing else: under any levels
it finds what it finds with every diagnostic as an error, less those whose level is off, each with
the severity of its level (`analyzeDocument_withLevels`). Whether a check passes can then be read
off the reports on the matches (`exitCode_check_eq_zero_iff`).
-/

namespace MatchCover

def Levels.of (levels : Levels) : DiagnosticKind → Level
  | .missingCases => levels.missingCases
  | .unreachableArm => levels.unreachableArm

/-- The levels at which every diagnostic is an error. -/
def Levels.strict : Levels := ⟨.error, .error⟩

def Config.withLevels (config : Config) (levels : Levels) : Config := { config with levels }

/-- The diagnostic with the severity that its kind has under some levels, `none` if that kind is
off. -/
def Diagnostic.under? (levels : Levels) (x : Diagnostic) : Option Diagnostic :=
  (levels.of x.kind).severity?.map fun severity => { x with severity }

theorem Level.severity?_eq_error_iff {level : Level} :
    level.severity? = some .error ↔ level = .error := by
  cases level <;> simp [severity?]

variable {config : Config} {d : Document} {a : Analyzer} {m : MatchExpr} {u : UnionType}
  {r : Coverage.Report TypeRef} {ds : List Diagnostic} {levels : Levels}

namespace Analyzer

def withLevels (a : Analyzer) (levels : Levels) : Analyzer :=
  { a with config := a.config.withLevels levels }

/-! ## Diagnostics under levels -/

theorem missingDiagnostics_withLevels (a : Analyzer) (levels : Levels) :
    (a.withLevels levels).missingDiagnostics m u r =
      ((a.withLevels .strict).missingDiagnostics m u r).filterMap (·.under? levels) := by
  obtain ⟨verdict, unreachable, literalOnly⟩ := r
  obtain ⟨missingCases, unreachableArm⟩ := levels
  cases verdict <;> cases missingCases <;> rfl

theorem unreachableDiagnostics_withLevels (a : Analyzer) (levels : Levels) :
    (a.withLevels levels).unreachableDiagnostics m r =
      ((a.withLevels .strict).unreachableDiagnostics m r).filterMap (·.under? levels) := by
  obtain ⟨missingCases, unreachableArm⟩ := levels
  have hstrict : (a.withLevels .strict).unreachableDiagnostics m r =
      r.unreachable.filterMap fun i => (m.arms[i]?).map (unreachableDiagnostic m .error i) := rfl
  have hunder (i : Nat) :
      ((m.arms[i]?).map (unreachableDiagnostic m .error i)).bind
          (·.under? ⟨missingCases, unreachableArm⟩) =
        unreachableArm.severity?.bind fun severity =>
          (m.arms[i]?).map (unreachableDiagnostic m severity i) := by
    cases m.arms[i]? <;> cases unreachableArm <;> rfl
  rw [hstrict, List.filterMap_filterMap]
  simp only [hunder, unreachableDiagnostics, withLevels, Config.withLevels]
  cases unreachableArm.severity? <;> simp

theorem diagnose_withLevels (a : Analyzer) (levels : Levels) (m : MatchExpr) :
    (a.withLevels levels).diagnose m =
      ((a.withLevels .strict).diagnose m).map (·.filterMap (·.under? levels)) := by
  -- the report on the match does not look at the levels
  have hreport (levels : Levels) : (a.withLevels levels).report m = a.report m := rfl
  unfold diagnose
  rw [hreport, hreport]
  cases a.report m with
  | error e => rfl
  | ok found =>
    cases found with
    | none => rfl
    | some found =>
      simp only [bind, Except.bind, missingDiagnostics_withLevels a levels,
        unreachableDiagnostics_withLevels a levels, ← List.filterMap_append]
      rfl

theorem ofDocument_withLevels (config : Config) (levels : Levels) (d : Document) :
    ofDocument (config.withLevels levels) d = (ofDocument config d).map (·.withLevels levels) := by
  simp only [ofDocument, Config.withLevels]
  cases d.checkSpans none with
  | error e => rfl
  | ok _ =>
    simp only [bind, Except.bind]
    cases Environment.ofAliases (config.aliases ++ d.aliases.map fun a => (a.name, a.target))
        config.ignoreNullability with
    | error e => rfl
    | ok env =>
      dsimp only
      cases Registry.ofDecls config.generic d.unions env <;> rfl

end Analyzer

theorem analyzeDocument_withLevels (config : Config) (levels : Levels) (d : Document) :
    analyzeDocument (config.withLevels levels) d =
      (analyzeDocument (config.withLevels .strict) d).map (·.filterMap (·.under? levels)) := by
  unfold analyzeDocument
  rw [Analyzer.ofDocument_withLevels, Analyzer.ofDocument_withLevels config .strict]
  cases Analyzer.ofDocument config d with
  | error e => rfl
  | ok a =>
    have hmatches : d.expressions.mapM (a.withLevels levels).diagnose =
        (d.expressions.mapM (a.withLevels .strict).diagnose).map
          (List.map (·.filterMap (·.under? levels))) := by
      rw [funext (a.diagnose_withLevels levels), mapM_map_result]
    simp only [bind, Except.bind, Except.map, hmatches]
    cases d.expressions.mapM (a.withLevels .strict).diagnose with
    | error e => rfl
    | ok found => simp [List.filterMap_flatten]

/-! ## Diagnostics that are errors -/

namespace Analyzer

theorem exists_error_missingDiagnostics :
    (∃ x ∈ a.missingDiagnostics m u r, x.isError = true) ↔
      a.config.levels.missingCases = .error ∧ r.verdict ≠ .exhaustive := by
  rw [← Level.severity?_eq_error_iff]
  obtain ⟨verdict, unreachable, literalOnly⟩ := r
  simp only [missingDiagnostics]
  cases a.config.levels.missingCases.severity? <;> cases verdict <;> simp [Diagnostic.isError]

theorem exists_error_unreachableDiagnostics (h : ∀ i ∈ r.unreachable, i < m.arms.length) :
    (∃ x ∈ a.unreachableDiagnostics m r, x.isError = true) ↔
      a.config.levels.unreachableArm = .error ∧ ∃ i, i ∈ r.unreachable := by
  rw [← Level.severity?_eq_error_iff, unreachableDiagnostics]
  cases a.config.levels.unreachableArm.severity? with
  | none => simp
  | some severity =>
    simp only [List.mem_filterMap, Option.map_eq_some_iff, Option.some.injEq]
    constructor
    · rintro ⟨x, ⟨i, hi, arm, -, rfl⟩, herror⟩
      exact ⟨of_decide_eq_true herror, i, hi⟩
    · rintro ⟨rfl, i, hi⟩
      exact ⟨_, ⟨i, hi, _, List.getElem?_eq_getElem (h i hi), rfl⟩, rfl⟩

/-- A match over a union gives an error exactly if it misses variants or has unreachable arms, where
these are errors. -/
theorem exists_error_diagnose (h : a.diagnose m = .ok ds) :
    (∃ x ∈ ds, x.isError = true) ↔ ∃ u r, a.report m = .ok (some (u, r)) ∧
      (a.config.levels.missingCases = .error ∧ (∃ v, v ∈ r.verdict.missingVariants) ∨
        a.config.levels.unreachableArm = .error ∧ ∃ i, i ∈ r.unreachable) := by
  rcases diagnose_eq_ok_iff.mp h with ⟨hreport, rfl⟩ | ⟨u, r, hreport, rfl⟩
  · simp [hreport]
  · obtain ⟨-, -, hr⟩ := report_eq_some_iff.mp hreport
    have hlt (i : Nat) (hi : i ∈ r.unreachable) : i < m.arms.length := by
      rw [hr] at hi
      simpa using Coverage.lt_length_of_mem_unreachableArms hi
    have hmissing : (∃ v, v ∈ r.verdict.missingVariants) ↔ r.verdict ≠ .exhaustive := by
      rw [hr]
      exact Coverage.exists_mem_missingVariants_check
    have heither : (∃ x ∈ a.missingDiagnostics m u r ++ a.unreachableDiagnostics m r,
        x.isError = true) ↔ (∃ x ∈ a.missingDiagnostics m u r, x.isError = true) ∨
          ∃ x ∈ a.unreachableDiagnostics m r, x.isError = true := by
      simp only [List.mem_append, or_and_right, exists_or]
    rw [heither, exists_error_missingDiagnostics, exists_error_unreachableDiagnostics hlt,
      ← hmissing]
    constructor
    · intro hlevels
      exact ⟨u, r, hreport, hlevels⟩
    · rintro ⟨u', r', hreport', hlevels⟩
      rw [hreport] at hreport'
      cases hreport'
      exact hlevels

/-- Some match over a union misses variants. -/
def MissesCases (a : Analyzer) (ms : List MatchExpr) : Prop :=
  ∃ m ∈ ms, ∃ u r, a.report m = .ok (some (u, r)) ∧ ∃ v, v ∈ r.verdict.missingVariants

/-- Some match over a union has an arm that is never chosen. -/
def HasUnreachableArm (a : Analyzer) (ms : List MatchExpr) : Prop :=
  ∃ m ∈ ms, ∃ u r, a.report m = .ok (some (u, r)) ∧ ∃ i, i ∈ r.unreachable

theorem exists_error_of_diagnose {ms : List MatchExpr} {found : List (List Diagnostic)}
    (h : List.Forall₂ (fun m xs => a.diagnose m = .ok xs) ms found) :
    (∃ x ∈ found.flatten, x.isError = true) ↔
      a.config.levels.missingCases = .error ∧ a.MissesCases ms ∨
        a.config.levels.unreachableArm = .error ∧ a.HasUnreachableArm ms := by
  constructor
  · rintro ⟨x, hx, herror⟩
    obtain ⟨m, hm, xs, hxs, hx⟩ := (mem_flatten_iff_of_diagnose h).mp hx
    obtain ⟨u, r, hreport, hlevels⟩ := (exists_error_diagnose hxs).mp ⟨x, hx, herror⟩
    rcases hlevels with ⟨hlevel, hr⟩ | ⟨hlevel, hr⟩
    · exact .inl ⟨hlevel, m, hm, u, r, hreport, hr⟩
    · exact .inr ⟨hlevel, m, hm, u, r, hreport, hr⟩
  · intro hlevels
    obtain ⟨m, hm, u, r, hreport, hr⟩ : ∃ m ∈ ms, ∃ u r, a.report m = .ok (some (u, r)) ∧
        (a.config.levels.missingCases = .error ∧ (∃ v, v ∈ r.verdict.missingVariants) ∨
          a.config.levels.unreachableArm = .error ∧ ∃ i, i ∈ r.unreachable) := by
      rcases hlevels with ⟨hlevel, m, hm, u, r, hreport, hr⟩ | ⟨hlevel, m, hm, u, r, hreport, hr⟩
      · exact ⟨m, hm, u, r, hreport, .inl ⟨hlevel, hr⟩⟩
      · exact ⟨m, hm, u, r, hreport, .inr ⟨hlevel, hr⟩⟩
    have hxs := diagnose_eq_ok_iff.mpr (.inr ⟨u, r, hreport, rfl⟩)
    obtain ⟨x, hx, herror⟩ := (exists_error_diagnose hxs).mpr ⟨u, r, hreport, hr⟩
    exact ⟨x, (mem_flatten_iff_of_diagnose h).mpr ⟨m, hm, _, hxs, hx⟩, herror⟩

end Analyzer

theorem Input.exitCode_check_eq_zero_iff {i : Input} {format : Format} {verbose : Bool}
    (h : analyzeDocument i.config i.document = .ok ds) :
    (i.check format verbose).exitCode = 0 ↔ ¬ ∃ x ∈ ds, x.isError = true := by
  simp [check, analyze_result, h, passes]

/-- An analysis fails with the same error under all levels, or else finds under each what it finds
under the strict ones, without the diagnostics whose kind is off and with the severities of the
levels. A check then passes exactly if no match over a union misses variants where that is an error,
and none has an unreachable arm where that is one. -/
theorem levels_filter_diagnostics (config : Config) (d : Document) (levels levels' : Levels) :
    (∃ e, analyzeDocument (config.withLevels levels) d = .error e ∧
      analyzeDocument (config.withLevels levels') d = .error e) ∨
    ∃ a all, Analyzer.ofDocument (config.withLevels levels) d = .ok a ∧
      analyzeDocument (config.withLevels .strict) d = .ok all ∧
      analyzeDocument (config.withLevels levels) d = .ok (all.filterMap (·.under? levels)) ∧
      analyzeDocument (config.withLevels levels') d = .ok (all.filterMap (·.under? levels')) ∧
      ∀ filename source format verbose,
        (Input.check ⟨d, config.withLevels levels, filename, source⟩ format verbose).exitCode = 0 ↔
          ¬ (levels.missingCases = .error ∧ a.MissesCases d.expressions) ∧
            ¬ (levels.unreachableArm = .error ∧ a.HasUnreachableArm d.expressions) := by
  have hlevels := analyzeDocument_withLevels config levels d
  have hlevels' := analyzeDocument_withLevels config levels' d
  cases hall : analyzeDocument (config.withLevels .strict) d with
  | error e =>
    rw [hall] at hlevels hlevels'
    exact .inl ⟨e, hlevels, hlevels'⟩
  | ok all =>
    rw [hall] at hlevels hlevels'
    obtain ⟨a, found, ha, hfound, hds⟩ := analyzeDocument_eq_ok_iff.mp hlevels
    refine .inr ⟨a, all, ha, rfl, hlevels, hlevels', fun filename source format verbose => ?_⟩
    have hconfig : a.config.levels = levels := by rw [Analyzer.config_of_ofDocument ha]; rfl
    rw [Input.exitCode_check_eq_zero_iff hlevels, hds, Analyzer.exists_error_of_diagnose hfound,
      hconfig, not_or]

end MatchCover

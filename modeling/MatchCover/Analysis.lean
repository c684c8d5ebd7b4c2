import MatchCover.Config.Basic
import MatchCover.Coverage.Basic
import MatchCover.Coverage.Summary
import MatchCover.Union.Registry

/-!
# Analysis of documents

For each match: find the union that it is over, check how its arms cover the variants, and turn the
report into diagnostics of the configured severity. A match over no union has none.
-/

namespace MatchCover

/-- What the coverage check sees of a pattern. -/
def Pattern.coverageArm : Pattern → Coverage.Arm TypeRef
  | discard => .discard
  | literal _ type => .literal type
  | typeTest type _ => .typeTest type

/-- What the matches of a document are checked with. -/
structure Analyzer where
  config : Config
  env : Environment
  registry : Registry

namespace Analyzer

/-- The analyzer for a document. Its aliases replace those of the configuration. -/
def ofDocument (config : Config) (d : Document) : Except CheckError Analyzer := do
  d.checkSpans none
  let aliases := config.aliases ++ d.aliases.map fun a => (a.name, a.target)
  let env ← Environment.ofAliases aliases config.ignoreNullability
  let registry ← Registry.ofDecls config.generic d.unions env
  return { config, env, registry }

/-- The union that a match is over: the one that it names, else the one that its type means. -/
def unionOf (a : Analyzer) (m : MatchExpr) : Except CheckError (Option UnionType) :=
  match m.union with
  | some name => do
    let u ← a.registry.lookup name m.span
    return some ⟨m.scrutinee, u.variants⟩
  | none => return a.registry.resolve a.env m.scrutinee

/-- The union that a match is over, with the report on its arms. -/
def report (a : Analyzer) (m : MatchExpr) :
    Except CheckError (Option (UnionType × Coverage.Report TypeRef)) := do
  if m.arms.isEmpty then throw (.malformed "match expression has no arms" m.span)
  let union ← a.unionOf m
  return union.map fun u =>
    (u, Coverage.analyze a.env.canonical u.variants (m.arms.map (·.pattern.coverageArm)))

def literalNote (t : TypeRef) : String :=
  "a literal pattern matches only one value of `" ++ t.display ++ "`; add a type pattern for `" ++
    t.display ++ "`"

/-- Why the arm of number `index` is never chosen, given the number of the first discard. -/
def unreachableReason (pattern : Pattern) (index : Nat) (firstDiscard : Option Nat) : String :=
  if firstDiscard.any (· < index) then "an earlier discard arm matches every value"
  else match pattern with
    | .literal value (some t) =>
      "an earlier arm already matches every `" ++ t.display ++ "`, including `" ++ value.display ++
        "`"
    | .typeTest (some t) _ => "an earlier arm already matches every `" ++ t.display ++ "`"
    | _ => "an earlier arm already matches this pattern"

def missingDiagnostics (a : Analyzer) (m : MatchExpr) (u : UnionType)
    (report : Coverage.Report TypeRef) : List Diagnostic :=
  match a.config.levels.missingCases.severity?, report.verdict with
  | some severity, .missing variants => [{
      kind := .missingCases
      severity
      message := "non-exhaustive match on `" ++ u.type.display ++ "`: " ++
        Coverage.summary (variants.map TypeRef.display) ++ " not covered"
      span := m.span
      notes := report.literalOnly.map literalNote
      fix := some (Fix.suggest m variants a.config.fixStyle) }]
  | _, _ => []

def unreachableDiagnostic (m : MatchExpr) (severity : Severity) (index : Nat) (arm : MatchArm) :
    Diagnostic where
  kind := .unreachableArm
  severity
  message := "unreachable match arm: previous arms already cover this pattern"
  span := arm.span.or m.span
  arm := some index
  notes := [unreachableReason arm.pattern index (m.arms.findIdx? (·.pattern.isDiscard))]

def unreachableDiagnostics (a : Analyzer) (m : MatchExpr) (report : Coverage.Report TypeRef) :
    List Diagnostic :=
  match a.config.levels.unreachableArm.severity? with
  | some severity =>
    report.unreachable.filterMap fun i => (m.arms[i]?).map (unreachableDiagnostic m severity i)
  | none => []

def diagnose (a : Analyzer) (m : MatchExpr) : Except CheckError (List Diagnostic) := do
  match ← a.report m with
  | some (u, report) =>
    return a.missingDiagnostics m u report ++ a.unreachableDiagnostics m report
  | none => return []

end Analyzer

def analyzeDocument (config : Config) (d : Document) : Except CheckError (List Diagnostic) := do
  let analyzer ← Analyzer.ofDocument config d
  let found ← d.expressions.mapM analyzer.diagnose
  return found.flatten

end MatchCover

import MatchCover.Fix.Suggestion

/-!
# Diagnostics

What the check has to say about a match: that it misses cases or that an arm is never chosen.
-/

namespace MatchCover

inductive Severity where
  | warning
  | error
  deriving DecidableEq, Repr

def Severity.name : Severity → String
  | warning => "warning"
  | error => "error"

inductive DiagnosticKind where
  /-- A match does not cover every variant of its union. -/
  | missingCases
  /-- An arm can never be chosen. -/
  | unreachableArm
  deriving DecidableEq, Repr

namespace DiagnosticKind

def code : DiagnosticKind → String
  | missingCases => "UC0001"
  | unreachableArm => "UC0002"

def name : DiagnosticKind → String
  | missingCases => "missing-cases"
  | unreachableArm => "unreachable-arm"

end DiagnosticKind

structure Diagnostic where
  kind : DiagnosticKind
  severity : Severity
  message : String
  span : Option Span
  /-- The number of the arm, where the diagnostic is about one. -/
  arm : Option Nat := none
  notes : List String := []
  fix : Option Fix := none
  deriving DecidableEq, Repr

namespace Diagnostic

/-- The line that heads a diagnostic, without its place. -/
def headline (d : Diagnostic) : String :=
  d.severity.name ++ "[" ++ d.kind.code ++ "]: " ++ d.message

def isError (d : Diagnostic) : Bool := d.severity = .error

end Diagnostic

end MatchCover

import MatchCover.Alias.Table
import MatchCover.Diagnostic.Basic

/-!
# Configuration

The settings of a check, each with a default.
-/

namespace MatchCover

/-- How a kind of diagnostic is reported, if at all. -/
inductive Level where
  | off
  | warning
  | error
  deriving DecidableEq, Repr

def Level.severity? : Level → Option Severity
  | off => none
  | warning => some .warning
  | error => some .error

structure Levels where
  missingCases : Level := .error
  unreachableArm : Level := .warning
  deriving DecidableEq, Repr

structure Config where
  /-- The names of generic union constructors. -/
  generic : List String := ["OneOf"]
  ignoreNullability : Bool := true
  /-- Aliases for all documents, each name once, in the order of names. -/
  aliases : AliasTable := []
  levels : Levels := {}
  fixStyle : FixStyle := {}
  deriving Repr

end MatchCover

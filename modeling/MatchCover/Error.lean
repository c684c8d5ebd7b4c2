import MatchCover.Snapshot.Span

/-!
# Errors

What keeps a document from being checked: files that cannot be read, texts that are no snapshot or
configuration, and declarations that break the rules of the model. A match that misses cases is not
an error but a diagnostic.
-/

namespace MatchCover

inductive CheckError where
  /-- A file could not be read. -/
  | inaccessible (message : String)
  /-- A text is no snapshot. -/
  | unreadableSnapshot
  /-- A text is no configuration. -/
  | unreadableConfig
  /-- Aliases refer to each other in a circle; the path ends where it starts. -/
  | aliasCycle (path : List String)
  /-- A match names a union that is not declared; the hint names a similar one. -/
  | unknownUnion (name hint : String) (span : Option Span)
  /-- The declaration of a union breaks a rule. -/
  | invalidUnion (name message : String) (span : Option Span)
  /-- A span, an edit or a match breaks a rule. -/
  | malformed (message : String) (span : Option Span)
  deriving DecidableEq, Repr

namespace CheckError

def span? : CheckError → Option Span
  | unknownUnion _ _ span => span
  | invalidUnion _ _ span => span
  | malformed _ span => span
  | _ => none

/-- The sort of error that a report is headed with. -/
def category : CheckError → String
  | inaccessible _ => "IO"
  | unreadableSnapshot => "Snapshot"
  | unreadableConfig => "Config"
  | aliasCycle _ => "Alias"
  | unknownUnion .. => "Union"
  | invalidUnion .. => "Union"
  | malformed .. => "Input"

/-- The text of an error without the words that tell its sort. -/
def detail : CheckError → String
  | inaccessible message => message
  | unreadableSnapshot => ""
  | unreadableConfig => ""
  | aliasCycle path => " -> ".intercalate path
  | unknownUnion name hint _ => "`" ++ name ++ "`" ++ hint
  | invalidUnion name message _ => "`" ++ name ++ "`: " ++ message
  | malformed message _ => message

def introduction : CheckError → String
  | inaccessible _ => "IO error: "
  | unreadableSnapshot => "invalid snapshot:"
  | unreadableConfig => "invalid configuration:"
  | aliasCycle _ => "type alias cycle: "
  | unknownUnion .. => "unknown union "
  | invalidUnion .. => "invalid union "
  | malformed .. => "malformed input: "

def message (e : CheckError) : String := e.introduction ++ e.detail

end CheckError

end MatchCover

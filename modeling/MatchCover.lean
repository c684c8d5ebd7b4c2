import MatchCover.Main
import MatchCover.Proofs.Alias.Equality
import MatchCover.Proofs.Alias.Termination
import MatchCover.Proofs.Coverage.Invariance
import MatchCover.Proofs.Coverage.Removal
import MatchCover.Proofs.Fix.Completion
import MatchCover.Proofs.Union.Recognition
import MatchCover.Proofs.TypeRef.Notation
import MatchCover.Proofs.Analysis.Diagnostics
import MatchCover.Proofs.Fix.Insertion
import MatchCover.Proofs.Command.Fixing
import MatchCover.Proofs.Analysis.Locations
import MatchCover.Proofs.Decimal.Range
import MatchCover.Proofs.Json.Strings
import MatchCover.Proofs.Json.Numbers
import MatchCover.Proofs.Json.Scanning
import MatchCover.Proofs.Json.Printing
import MatchCover.Proofs.Json.Records
import MatchCover.Proofs.Snapshot.Patterns
import MatchCover.Proofs.Snapshot.RoundTrip
import MatchCover.Proofs.Command.Dumping
import MatchCover.Proofs.Analysis.Levels
import MatchCover.Proofs.Analysis.Naming
import MatchCover.Proofs.Coverage.Merging
import MatchCover.Proofs.Union.Nullability
import MatchCover.Proofs.Fix.Pass
import MatchCover.Proofs.Text.EditDistance
import MatchCover.Proofs.Union.Lookup
import MatchCover.Proofs.Alias.LastBindings
import MatchCover.Proofs.TypeRef.Grammar
import MatchCover.Proofs.TypeRef.Unambiguity
import MatchCover.Proofs.Analysis.Reasons
import MatchCover.Proofs.Coverage.Extension
import MatchCover.Proofs.Fix.FreshNames
import MatchCover.Proofs.Text.Boundaries
import MatchCover.Proofs.Union.Acceptance
import MatchCover.Proofs.Text.Position
import MatchCover.Proofs.Text.Substitution
import MatchCover.Proofs.Text.Deletion
import MatchCover.Proofs.Fix.Places
import MatchCover.Proofs.Fix.Filling
import MatchCover.Proofs.Fix.Discarding
import MatchCover.Proofs.Snapshot.Spellings
import MatchCover.Proofs.Coverage.Separation
import MatchCover.Proofs.Alias.Unreadable
import MatchCover.Proofs.Text.Lines
import MatchCover.Proofs.Diagnostic.Lines
import MatchCover.Proofs.Analysis.Lines

import MatchCover.Diagnostic.Basic
import MatchCover.Text.Position

/-!
# Diagnostics as plain text

One line for each diagnostic, then a line for each of its notes and one for its fix. The place is a
line and column where the source is known, else the span itself.
-/

namespace MatchCover.Diagnostic

def location (d : Diagnostic) (filename : String) (source : Option String) : String :=
  match d.span, source with
  | some span, some source =>
    let p := Text.positionAt source.toList span.start
    filename ++ ":" ++ toString p.line ++ ":" ++ toString p.column
  | some span, none => filename ++ "@" ++ span.display
  | none, _ => filename

def plainLines (d : Diagnostic) (filename : String) (source : Option String) : List String :=
  [d.location filename source ++ ": " ++ d.headline] ++
    d.notes.map ("  note: " ++ ·) ++ d.fix.toList.map ("  help: " ++ ·.title)

/-- Diagnostics as lines of text, each ended by a line feed. -/
def plainText (ds : List Diagnostic) (filename : String) (source : Option String) : String :=
  String.join ((ds.flatMap (·.plainLines filename source)).map (· ++ "\n"))

end MatchCover.Diagnostic

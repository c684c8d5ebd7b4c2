import MatchCover.Diagnostic.Plain
import MatchCover.Excerpt.Drawing

/-!
# Reports

A diagnostic or an error with the part of the source that it is about. Where its span does not fit
the source, a diagnostic is shown as plain text and an error as a single line.
-/

namespace MatchCover

/-- The span if it lies within the source. -/
def Span.fitting? (span : Option Span) (source : String) : Option Span :=
  span.filter (·.fits (Text.byteLength source.toList))

def Severity.title : Severity → String
  | warning => "Warning"
  | error => "Error"

def Diagnostic.report (d : Diagnostic) (filename source : String) : String :=
  match Span.fitting? d.span source with
  | some span =>
    Excerpt.draw {
      head := "[" ++ d.kind.code ++ "] " ++ d.severity.title ++ ": " ++ d.message
      filename
      span
      label := d.kind.name
      helps := d.fix.toList.map (·.title)
      notes := d.notes } source
  | none => plainText [d] filename (some source)

def CheckError.report (e : CheckError) (filename : String) (source : Option String) : String :=
  match source.bind fun text => (Span.fitting? e.span? text).map (·, text) with
  | some (span, text) =>
    Excerpt.draw { head := "Error: " ++ e.category ++ " error", filename, span, label := e.detail }
      text
  | none => "error: " ++ e.message ++ "\n"

end MatchCover

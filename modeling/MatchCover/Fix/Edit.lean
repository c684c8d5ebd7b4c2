import MatchCover.Fix.Suggestion
import MatchCover.Text.Bytes

/-!
# Edits

A fix becomes an insertion into the source, its arms each on a line of its own and indented like the
line of the insertion point. `applyAll` carries out several insertions, all at offsets of the
original source.
-/

namespace MatchCover

/-- An insertion of a text at a byte offset. -/
structure Edit where
  offset : Nat
  text : String
  deriving DecidableEq, Repr

namespace Edit

/-- The spaces and tabs that the line of an offset starts with; nothing if no line has the offset. -/
def indentAt (source : List Char) (offset : Nat) : List Char :=
  match Text.splitAt? source offset with
  | some (before, after) =>
    (Text.lastLine before ++ after).takeWhile fun c => c == ' ' || c == '\t'
  | none => []

/-- The insertion of the arms of a fix, if it has a place. -/
def ofFix? (fix : Fix) (source : String) : Option Edit :=
  fix.insertAt.map fun offset =>
    let indent := indentAt source.toList offset
    let arms := fix.arms.flatMap fun arm => [',', '\n'] ++ indent ++ arm.toList
    ⟨offset, String.ofList arms⟩

def insertAt (source : List Char) (offset : Nat) (text : List Char) : List Char :=
  match Text.splitAt? source offset with
  | some (before, after) => before ++ text ++ after
  | none => source

/-- Carries out all insertions, from the last place to the first, so that none moves the place of
another; those at one place follow each other as given. Refuses the first edit that is not between
two characters. -/
def applyAll (source : String) (edits : List Edit) : Except CheckError String :=
  match edits.find? fun e => !Text.isBoundary source.toList e.offset with
  | some e =>
    throw (.malformed
      ("edit offset " ++ toString e.offset ++ " is outside the source or inside a character") none)
  | none =>
    let ordered := edits.mergeSort fun a b => a.offset ≤ b.offset
    return String.ofList
      (ordered.foldr (fun e s => insertAt s e.offset e.text.toList) source.toList)

end Edit

end MatchCover

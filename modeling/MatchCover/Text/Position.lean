import MatchCover.Text.Bytes

/-!
# Line and column

The place of a byte offset as people count it: lines and the characters of a line, both from one.
An offset past the end counts as the end, one inside a character as the start of that character.
-/

namespace MatchCover.Text

structure Position where
  line : Nat
  column : Nat
  deriving DecidableEq, Repr

def Position.after (s : List Char) : Position :=
  ⟨s.count '\n' + 1, (lastLine s).length + 1⟩

def positionAt (source : List Char) (offset : Nat) : Position :=
  Position.after (prefixWithin source offset)

end MatchCover.Text

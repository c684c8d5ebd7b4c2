/-!
# Substitution

Replacing the occurrences of a pattern in a text, from left to right and without overlaps. The
inserted text is not searched again.
-/

namespace MatchCover.Text

/-- Whether the pattern occurs somewhere in the text. -/
def occursIn (pattern : List Char) : List Char → Bool
  | [] => pattern.isEmpty
  | c :: s => pattern.isPrefixOf (c :: s) || occursIn pattern s

/-- Replaces a pattern that is not empty, once `skip` more characters of an occurrence are passed. -/
def substituteFrom (pattern replacement : List Char) : Nat → List Char → List Char
  | _, [] => []
  | skip + 1, _ :: s => substituteFrom pattern replacement skip s
  | 0, c :: s =>
    if pattern.isPrefixOf (c :: s) then
      replacement ++ substituteFrom pattern replacement (pattern.length - 1) s
    else c :: substituteFrom pattern replacement 0 s

/-- The text with every occurrence of the pattern, which must not be empty, replaced. -/
def substitute (pattern replacement s : List Char) : List Char :=
  substituteFrom pattern replacement 0 s

end MatchCover.Text

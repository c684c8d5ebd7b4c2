/-!
# Edit distance

The number of characters to insert, delete or change to turn one text into another, computed with
one row of distances: for the part of a text that has been read, the distances to all parts that the
other text starts with, the shortest first. Every character that is read overwrites the row from the
left to the right. `closest?` picks the candidate for a misspelt name.
-/

namespace MatchCover.Text

/-- Overwrites the row behind place `j` for the character `c`, where `rest` is what is left of the
other text from there on. The entry `diagonal` is the one that was at place `j` before. -/
def overwrite (c : Char) : (rest : List Char) → (j diagonal : Nat) → (row : Array Nat) → Array Nat
  | [], _, _, row => row
  | y :: rest, j, diagonal, row =>
    let above := row[j + 1]!
    let substitution := diagonal + if c = y then 0 else 1
    let distance := min (min substitution (above + 1)) (row[j]! + 1)
    overwrite c rest (j + 1) above (row.set! (j + 1) distance)

/-- Reads what is left of a text from place `i` on, and overwrites the row for each character. -/
def readRow (b : List Char) : (rest : List Char) → (i : Nat) → (row : Array Nat) → Array Nat
  | [], _, row => row
  | c :: rest, i, row => readRow b rest (i + 1) (overwrite c b 0 row[0]! (row.set! 0 (i + 1)))

/-- The least number of insertions, deletions and changes of one character from `a` to `b`. -/
def editDistance (a b : List Char) : Nat :=
  (readRow b a 0 (Array.range (b.length + 1)))[b.length]!

/-- The candidate nearest to a name, of those at most `threshold` edits away; among equally near
ones the first. -/
def closest? (name : String) (candidates : List String) (threshold : Nat) : Option String :=
  let near := candidates.filter fun c => editDistance name.toList c.toList ≤ threshold
  near.foldl
    (fun best c =>
      match best with
      | none => some c
      | some b =>
        if editDistance name.toList c.toList < editDistance name.toList b.toList then some c
        else some b)
    none

end MatchCover.Text

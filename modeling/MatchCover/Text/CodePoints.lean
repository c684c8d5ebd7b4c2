/-!
# Sets of code points

A property of characters is tabulated by its boundaries, the code points at which it starts and
stops to hold in ascending order, or, where it holds of every other code point, by runs.
-/

namespace MatchCover.Text

/-- Whether `n` lies in a set that starts at the first boundary, stops before the second, starts
again at the third, and so on. -/
def inside : List Nat → Nat → Bool
  | start :: stop :: rest, n => if n < start then false else n < stop || inside rest n
  | _, _ => false

/-- The code points `first`, `first + step`, …, `last`. -/
structure Run where
  first : Nat
  last : Nat
  step : Nat
  deriving Repr

def Run.contains (r : Run) (n : Nat) : Bool :=
  r.first ≤ n && n ≤ r.last && (n - r.first) % r.step == 0

end MatchCover.Text

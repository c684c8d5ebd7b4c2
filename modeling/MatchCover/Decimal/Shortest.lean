import MatchCover.Decimal.Binary64

/-!
# Shortest decimals

`shortest` gives the decimal of the fewest digits that reads back as the number, and of those the
nearest one. A binary number is a whole multiple of `10 ^ -1074`, so its candidates with `n` digits
are that multiple cut off after `n` digits and the next one above.
-/

namespace MatchCover.Binary64

/-- What to do when two candidates are equally near. -/
inductive Tie where
  /-- Take the larger one. -/
  | up
  /-- Take the one with the even last digit. -/
  | even
  deriving DecidableEq, Repr

/-- The number as a whole multiple of `10 ^ -1074`, without its sign. -/
def exactCoefficient (x : Binary64) : Nat := x.units * Nat.pow 5 1074

def readsBack (x : Binary64) (d : Decimal) : Bool :=
  ofDecimal? false d == some { x with negative := false }

/-- Which of the multiples `low` and `low + 1` of a grid to take for a number that lies between
them, `above` past the lower one with the grid's step `step`, where the flags say which of them are
candidates. -/
def choose (tie : Tie) (low above step : Nat) (lowFits highFits : Bool) : Option Nat :=
  match lowFits, highFits with
  | true, false => some low
  | false, true => some (low + 1)
  | false, false => none
  | true, true =>
    if 2 * above < step then some low
    else if step < 2 * above then some (low + 1)
    else match tie with
      | .up => some (low + 1)
      | .even => some (low + low % 2)

/-- The best decimal of `count` digits that reads back, if there is one. -/
def candidate? (tie : Tie) (x : Binary64) (count : Nat) : Option Decimal :=
  let exact := x.exactCoefficient
  let cut := (Decimal.digits exact).length - count
  let step := Nat.pow 10 cut
  let low := exact / step
  let exponent := (cut : Int) - 1074
  let fits (n : Nat) := x.readsBack ⟨n, exponent⟩
  (choose tie low (exact % step) step (fits low) (fits (low + 1))).map (⟨·, exponent⟩)

/-- The decimal of the fewest digits that reads back as the number without its sign. Seventeen
digits always suffice. -/
def shortest (tie : Tie) (x : Binary64) : Decimal :=
  match (List.range' 1 17).findSome? (candidate? tie x) with
  | some d => d.reduced
  | none => Decimal.reduced ⟨x.exactCoefficient, -1074⟩

end MatchCover.Binary64

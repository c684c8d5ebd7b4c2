/-!
# Decimal numbers

`coefficient · 10 ^ exponent` with a natural coefficient. Several pairs stand for one number;
`reduced` picks the one whose coefficient has no trailing zero.
-/

namespace MatchCover

structure Decimal where
  coefficient : Nat
  exponent : Int
  deriving DecidableEq, Repr

namespace Decimal

/-- Moves the trailing zeros of the coefficient into the exponent. -/
def trimZeros (coefficient : Nat) (exponent : Int) : Decimal :=
  if coefficient % 10 = 0 ∧ 0 < coefficient then trimZeros (coefficient / 10) (exponent + 1)
  else ⟨coefficient, exponent⟩
termination_by coefficient
decreasing_by omega

/-- The pair without trailing zeros; zero has the exponent zero. -/
def reduced (d : Decimal) : Decimal :=
  if d.coefficient = 0 then ⟨0, 0⟩ else trimZeros d.coefficient d.exponent

/-- The value of a digit, zero for other characters. -/
def digitValue (c : Char) : Nat := c.toNat - '0'.toNat

def ofDigits (digits : List Char) : Nat := digits.foldl (fun n c => 10 * n + digitValue c) 0

/-- The digits of a number, most significant first. -/
def digits (n : Nat) : List Char := Nat.toDigits 10 n

/-- The place of the digit in front: the number is at least `10 ^ (leading - 1)` and less than
`10 ^ leading`, if it is not zero. -/
def leading (d : Decimal) : Int := (digits d.coefficient).length + d.exponent

end Decimal

end MatchCover

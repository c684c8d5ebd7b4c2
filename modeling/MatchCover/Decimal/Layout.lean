import MatchCover.Decimal.Shortest

/-!
# Layout of floating-point numbers

A number is written with its shortest digits, either positionally with at least one digit after the
point or, when it is very large or small, with an exponent. A `Layout` says where the exponent form
begins and what it looks like.
-/

namespace MatchCover

structure Layout where
  /-- The place of the first digit of the least numbers written positionally. -/
  leastPlace : Int
  /-- The place of the first digit from which on the exponent is written. -/
  exponentPlace : Int
  /-- Whether a positive exponent has a plus sign. -/
  plusSign : Bool
  tie : Binary64.Tie
  deriving Repr

namespace Layout

/-- Digits with a point after the first `place` of them, filled up with zeros on either side. -/
def positional (digits : List Char) (place : Int) : List Char :=
  if place ≤ 0 then '0' :: '.' :: (List.replicate (-place).toNat '0' ++ digits)
  else if digits.length ≤ place.toNat then
    digits ++ List.replicate (place.toNat - digits.length) '0' ++ ['.', '0']
  else digits.take place.toNat ++ '.' :: digits.drop place.toNat

/-- Digits with a point after the first and the exponent that makes up for it. -/
def scientific (plusSign : Bool) (digits : List Char) (place : Int) : List Char :=
  let fraction := digits.drop 1
  let exponent := place - 1
  digits.take 1 ++ (if fraction.isEmpty then [] else '.' :: fraction) ++
    'e' :: ((if exponent < 0 then ['-'] else if plusSign then ['+'] else []) ++
      Decimal.digits exponent.natAbs)

def write (l : Layout) (x : Binary64) : List Char :=
  let sign := if x.negative then ['-'] else []
  let d := x.shortest l.tie
  let digits := Decimal.digits d.coefficient
  sign ++
    if d.coefficient = 0 then positional digits 1
    else if l.leastPlace ≤ d.leading ∧ d.leading < l.exponentPlace then
      positional digits d.leading
    else scientific l.plusSign digits d.leading

end Layout

end MatchCover

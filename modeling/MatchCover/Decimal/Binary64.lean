import MatchCover.Decimal.Basic

/-!
# Binary floating point

The finite numbers of the 64-bit binary format: `significand · 2 ^ scale` units, where a unit is
`2 ^ -1074`, the least positive number. `ofDecimal?` rounds a decimal to the nearest of them, a
tie to the even significand; a number beyond all of them has none.
-/

namespace MatchCover

structure Binary64 where
  negative : Bool
  significand : Nat
  scale : Nat
  deriving DecidableEq, Repr

/-- The quotient rounded to the nearest natural number, a half to the even one. -/
def roundHalfEven (num den : Nat) : Nat :=
  let q := num / den
  let r := num % den
  if 2 * r < den then q else if den < 2 * r then q + 1 else q + q % 2

namespace Binary64

def zero (negative : Bool) : Binary64 := ⟨negative, 0, 0⟩

/-- The units of a number, without its sign. -/
def units (x : Binary64) : Nat := x.significand * Nat.pow 2 x.scale

/-- The scale that leaves a significand of at most 53 bits. -/
def scaleFor (units : Nat) : Nat := if units < Nat.pow 2 53 then 0 else units.log2 - 52

/-- The number nearest to `num / den` units, `none` if that is too large for the format. -/
def round? (negative : Bool) (num den : Nat) : Option Binary64 :=
  let scale := scaleFor (num / den)
  let significand := roundHalfEven num (den * Nat.pow 2 scale)
  let (significand, scale) :=
    if significand = Nat.pow 2 53 then (Nat.pow 2 52, scale + 1) else (significand, scale)
  if scale ≤ 2045 then some ⟨negative, significand, scale⟩ else none

/-- The number nearest to a decimal. Decimals that are certainly too large or that certainly round
to zero are told by the place of their first digit, so that no huge power is computed. -/
def ofDecimal? (negative : Bool) (d : Decimal) : Option Binary64 :=
  let d := d.reduced
  if d.coefficient = 0 then some (zero negative)
  else if 310 < d.leading then none
  else if d.leading < -330 then some (zero negative)
  else if 0 ≤ d.exponent then
    round? negative (d.coefficient * Nat.pow 10 d.exponent.toNat * Nat.pow 2 1074) 1
  else round? negative (d.coefficient * Nat.pow 2 1074) (Nat.pow 10 (-d.exponent).toNat)

end Binary64

end MatchCover

import MatchCover.Decimal.Binary64

/-!
# Scaling by powers of ten

Products and quotients of floating-point numbers, rounded to the nearest one, and multiplication by
a power of ten that is itself a floating-point number. `scale?` rounds at every step, so it need not
give the number nearest to the exact product.
-/

namespace MatchCover.Binary64

/-- The product of two numbers, `none` if it is too large for the format. -/
def mul? (x y : Binary64) : Option Binary64 :=
  round? (x.negative != y.negative) (x.units * y.units) (Nat.pow 2 1074)

/-- The quotient of two numbers, the second one not zero. -/
def div? (x y : Binary64) : Option Binary64 :=
  round? (x.negative != y.negative) (x.units * Nat.pow 2 1074) y.units

def ofNat? (negative : Bool) (n : Nat) : Option Binary64 := ofDecimal? negative ⟨n, 0⟩

/-- The number nearest to `10 ^ n`. -/
def powerOfTen? (n : Nat) : Option Binary64 := ofDecimal? false ⟨1, n⟩

/-- The exponent of the largest power of ten in the format. -/
def greatestPower : Nat := 308

/-- Divides by `10 ^ n`, in steps of the largest power until what is left of `n` is in the format
or the number has become zero. -/
def scaleDown? (x : Binary64) (n : Nat) : Option Binary64 :=
  if n ≤ greatestPower then (powerOfTen? n).bind x.div?
  else if x.significand = 0 then some x
  else do
    let power ← powerOfTen? greatestPower
    let x ← x.div? power
    scaleDown? x (n - greatestPower)
termination_by n
decreasing_by simp [greatestPower] at *; omega

/-- Multiplies by `10 ^ exponent`, `none` if the result is too large for the format. -/
def scale? (x : Binary64) (exponent : Int) : Option Binary64 :=
  if exponent < 0 then x.scaleDown? exponent.natAbs
  else if x.significand = 0 then some x
  else if exponent ≤ greatestPower then (powerOfTen? exponent.natAbs).bind x.mul?
  else none

end MatchCover.Binary64

import Mathlib.Algebra.Order.Ring.Nat
import Mathlib.Tactic.Ring
import MatchCover.Decimal.Scaling

/-!
# The range of the binary format

Rounding succeeds well below the end of the range and at most doubles a number (`exists_round?`).
So an integer of 64 bits has a nearest number in the format, which stays in range when it is scaled
by the zeroth power of ten (`isSome_ofNat?_bind_scale?`).
-/

namespace MatchCover

namespace Decimal

/-- Trailing zeros move into the exponent without changing the number. -/
theorem trimZeros_eq (n : Nat) (e : Int) :
    ∃ k : Nat, n = (trimZeros n e).coefficient * 10 ^ k ∧ (trimZeros n e).exponent = e + k := by
  fun_induction trimZeros n e with
  | case1 n e h ih =>
    obtain ⟨k, hk, he⟩ := ih
    refine ⟨k + 1, ?_, by omega⟩
    rw [pow_succ, ← Nat.mul_assoc, ← hk]
    omega
  | case2 n e h => exact ⟨0, by simp, by simp⟩

theorem leading_le {d : Decimal} {m : Nat} (hm : 0 < m) (h : d.coefficient < 10 ^ m) :
    d.leading ≤ m + d.exponent := by
  have := (Nat.length_toDigits_le_iff (b := 10) (by decide) hm).mpr h
  simp only [leading, digits]
  omega

end Decimal

theorem roundHalfEven_le (num den : Nat) : roundHalfEven num den ≤ num / den + 1 := by
  have := Nat.mod_lt (num / den) (by decide : 0 < 2)
  simp only [roundHalfEven]
  split
  · omega
  · split <;> omega

namespace Binary64

variable {negative : Bool} {num den n k : Nat}

theorem scaleFor_le (h : n < 2 ^ k) : scaleFor n ≤ k := by
  unfold scaleFor
  split
  · exact Nat.zero_le k
  · next hn =>
    have hne : n ≠ 0 := by
      rintro rfl
      exact hn (by decide)
    have := (Nat.log2_lt hne).mpr h
    omega

theorem exists_round? (negative : Bool) (h : num / den < 2 ^ k) (hk : k < 2045) :
    ∃ x, round? negative num den = some x ∧ x.units ≤ 2 ^ (k + 1) := by
  have hscale := scaleFor_le h
  have hsignificand : roundHalfEven num (den * Nat.pow 2 (scaleFor (num / den))) *
      2 ^ scaleFor (num / den) ≤ 2 ^ (k + 1) := by
    calc _
      _ ≤ (num / den / 2 ^ scaleFor (num / den) + 1) * 2 ^ scaleFor (num / den) := by
        rw [Nat.div_div_eq_div_mul]
        exact Nat.mul_le_mul_right _ (roundHalfEven_le _ _)
      _ ≤ num / den + 2 ^ scaleFor (num / den) := by
        rw [Nat.add_mul, Nat.one_mul]
        exact Nat.add_le_add_right (Nat.div_mul_le_self _ _) _
      _ ≤ 2 ^ k + 2 ^ k := Nat.add_le_add h.le (Nat.pow_le_pow_right (by decide) hscale)
      _ = 2 ^ (k + 1) := by ring
  unfold round?
  dsimp only
  split
  · next hfull =>
    rw [hfull] at hsignificand
    refine ⟨_, if_pos (by omega), ?_⟩
    calc 2 ^ 52 * 2 ^ (scaleFor (num / den) + 1)
      _ = 2 ^ 53 * 2 ^ scaleFor (num / den) := by ring
      _ ≤ 2 ^ (k + 1) := hsignificand
  · exact ⟨_, if_pos (by omega), hsignificand⟩

/-! ## Small integers

A unit is `2 ^ -1074`. The exponent stays a variable here, so that its power is not computed. -/

variable {e : Nat}

/-- A natural number of moderate size is rounded without regard to its decimal form. -/
theorem ofNat?_eq_round? (he : e = 1074) (negative : Bool) (hn : n ≠ 0) (h : n < 10 ^ 20) :
    ofNat? negative n = round? negative (n * Nat.pow 2 e) 1 := by
  obtain ⟨m, hm, hexponent⟩ := Decimal.trimZeros_eq n 0
  have hreduced : Decimal.reduced ⟨n, 0⟩ = Decimal.trimZeros n 0 := if_neg hn
  rw [ofNat?, ofDecimal?, hreduced]
  generalize Decimal.trimZeros n 0 = d at hm hexponent
  have hd : 0 < d.coefficient := by
    refine Nat.pos_of_ne_zero fun hzero => hn ?_
    rw [hm, hzero, Nat.zero_mul]
  have hcoefficient : d.coefficient < 10 ^ 20 := by
    refine lt_of_le_of_lt ?_ h
    rw [hm]
    exact Nat.le_mul_of_pos_right _ (Nat.pow_pos (by decide))
  have hplaces : m < 20 := by
    refine (Nat.pow_lt_pow_iff_right (by decide : 1 < 10)).mp (lt_of_le_of_lt ?_ h)
    rw [hm]
    exact Nat.le_mul_of_pos_left _ hd
  have hupper := Decimal.leading_le (by decide) hcoefficient
  have hlower : 0 ≤ d.leading := by
    simp only [Decimal.leading]
    omega
  have hvalue : d.coefficient * Nat.pow 10 d.exponent.toNat = n := by
    rw [hexponent, hm]
    simp
  rw [if_neg (by omega), if_neg (by omega), if_neg (by omega), if_pos (by omega), hvalue, ← he]

theorem ofNat?_zero (negative : Bool) : ofNat? negative 0 = some (zero negative) := by
  rw [ofNat?, ofDecimal?]
  exact if_pos rfl

theorem mul?_eq_round? (he : e = 1074) (x y : Binary64) :
    x.mul? y = round? (x.negative != y.negative) (x.units * y.units) (Nat.pow 2 e) := by
  rw [mul?, ← he]

theorem exists_ofNat? (he : e = 1074) (negative : Bool) (h : n < 2 ^ k) (hk : k ≤ 64) :
    ∃ x, ofNat? negative n = some x ∧ x.units ≤ 2 ^ (k + e + 1) := by
  have hn : n < 2 ^ 64 := h.trans_le (Nat.pow_le_pow_right (by decide) hk)
  by_cases hzero : n = 0
  · subst hzero
    exact ⟨_, ofNat?_zero negative, (Nat.zero_mul _).le.trans (Nat.zero_le _)⟩
  · rw [ofNat?_eq_round? he negative hzero (by omega)]
    refine exists_round? negative ?_ (by omega)
    rw [Nat.div_one, pow_add]
    exact Nat.mul_lt_mul_of_pos_right h (Nat.pow_pos (by decide))

theorem exists_scale?_zero (he : e = 1074) {x : Binary64} (h : x.units ≤ 2 ^ (k + e + 1))
    (hk : k ≤ 64) : ∃ y, x.scale? 0 = some y := by
  by_cases hzero : x.significand = 0
  · exact ⟨x, (if_neg (by decide)).trans (if_pos hzero)⟩
  obtain ⟨one, hone, hunits⟩ := exists_ofNat? he false (by decide : 1 < 2 ^ 1) (by decide)
  have hproduct : x.units * one.units / Nat.pow 2 e < 2 ^ (k + e + 4) := by
    refine Nat.div_lt_of_lt_mul ?_
    calc x.units * one.units
      _ ≤ 2 ^ (k + e + 1) * 2 ^ (1 + e + 1) := Nat.mul_le_mul h hunits
      _ = 2 ^ (k + e + 1 + (1 + e + 1)) := (pow_add ..).symm
      _ < 2 ^ (e + (k + e + 4)) := Nat.pow_lt_pow_right (by decide) (by omega)
      _ = 2 ^ e * 2 ^ (k + e + 4) := pow_add ..
  obtain ⟨y, hy, -⟩ := exists_round? (x.negative != one.negative) hproduct (by omega)
  have hpower : powerOfTen? (0 : Int).natAbs = some one := hone
  refine ⟨y, ?_⟩
  rw [scale?, if_neg (by decide), if_neg hzero, if_pos (by decide), hpower, Option.bind_some,
    mul?_eq_round? he, hy]

/-- An integer of 64 bits stays in range when it is read as a floating-point number. -/
theorem isSome_ofNat?_bind_scale? (negative : Bool) (h : n < 2 ^ 64) :
    ((ofNat? negative n).bind (scale? · 0)).isSome := by
  obtain ⟨x, hx, hunits⟩ := exists_ofNat? rfl negative h le_rfl
  obtain ⟨y, hy⟩ := exists_scale?_zero rfl hunits le_rfl
  rw [hx, Option.bind_some, hy, Option.isSome_some]

end Binary64

end MatchCover

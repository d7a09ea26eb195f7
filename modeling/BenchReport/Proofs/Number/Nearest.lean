import BenchReport.Number.Binary64
import Mathlib.Algebra.Order.Field.Power
import Mathlib.Algebra.Order.Field.Rat
import Mathlib.Data.Int.Log
import Mathlib.Data.Rat.Floor
import Mathlib.Tactic.Positivity

/-!
# Rounding to the nearest double

The nearest double of a number that a double stands for is that double. Numbers beyond the range of doubles go to infinity, numbers far below the least one to zero, and nothing below the range's end goes to infinity. That is what the readers of numbers rely on.
-/

namespace BenchReport.Binary64

/-! ### Exponents -/

theorem eq_toNat_div {r : Rat} (hr : 0 < r) : r = (r.num.toNat : Rat) / (r.den : Rat) := by
  conv_lhs => rw [← Rat.num_div_den r]
  congr 1
  have hnum := Rat.num_pos.2 hr
  exact_mod_cast (Int.toNat_of_nonneg hnum.le).symm

/-- The difference of the two logarithms is too large by at most one. -/
theorem sub_one_le_log {r : Rat} (hr : 0 < r) :
    (r.num.toNat.log2 : Int) - r.den.log2 - 1 ≤ Int.log 2 r := by
  rw [← Int.zpow_le_iff_le_log (by decide) hr]
  have hnum : r.num.toNat ≠ 0 := by
    have := Rat.num_pos.2 hr
    omega
  have hn : (2 : Rat) ^ r.num.toNat.log2 ≤ r.num.toNat := by
    exact_mod_cast Nat.log2_self_le hnum
  have hd : (r.den : Rat) ≤ 2 ^ (r.den.log2 + 1) := by
    exact_mod_cast Nat.lt_log2_self.le
  have hden : (0 : Rat) < r.den := by exact_mod_cast r.den_pos
  calc ((2 : Nat) : Rat) ^ ((r.num.toNat.log2 : Int) - r.den.log2 - 1)
      = 2 ^ r.num.toNat.log2 / 2 ^ (r.den.log2 + 1) := by
        rw [sub_sub, Nat.cast_ofNat, zpow_sub₀ two_ne_zero]
        norm_cast
    _ ≤ r.num.toNat / r.den := div_le_div₀ (Nat.cast_nonneg _) hn hden hd
    _ = r := (eq_toNat_div hr).symm

/-- The difference of the two logarithms is not too small. -/
theorem log_lt_add_one {r : Rat} (hr : 0 < r) :
    Int.log 2 r < (r.num.toNat.log2 : Int) - r.den.log2 + 1 := by
  rw [← Int.lt_zpow_iff_log_lt (by decide) hr]
  have hn : (r.num.toNat : Rat) < 2 ^ (r.num.toNat.log2 + 1) := by
    exact_mod_cast Nat.lt_log2_self
  have hd : (2 : Rat) ^ r.den.log2 ≤ r.den := by
    exact_mod_cast Nat.log2_self_le r.den_pos.ne'
  calc r = r.num.toNat / r.den := eq_toNat_div hr
    _ < 2 ^ (r.num.toNat.log2 + 1) / 2 ^ r.den.log2 :=
        div_lt_div₀ hn hd (by positivity) (by positivity)
    _ = ((2 : Nat) : Rat) ^ ((r.num.toNat.log2 : Int) - r.den.log2 + 1) := by
        rw [sub_add_eq_add_sub, Nat.cast_ofNat, zpow_sub₀ two_ne_zero]
        norm_cast

theorem floorLog2_eq_log {r : Rat} (hr : 0 < r) : floorLog2 r = Int.log 2 r := by
  have hlow := sub_one_le_log hr
  have hhigh := log_lt_add_one hr
  have hreach : (2 : Rat) ^ ((r.num.toNat.log2 : Int) - r.den.log2) ≤ r ↔
      (r.num.toNat.log2 : Int) - r.den.log2 ≤ Int.log 2 r := by
    exact_mod_cast Int.zpow_le_iff_le_log (by decide) hr
  rw [floorLog2]
  split
  · rename_i h
    rw [hreach] at h
    omega
  · rename_i h
    rw [hreach] at h
    omega

theorem floorLog2_eq {r : Rat} {exponent : Int} (hle : (2 : Rat) ^ exponent ≤ r)
    (hlt : r < (2 : Rat) ^ (exponent + 1)) : floorLog2 r = exponent := by
  have hr : 0 < r := (zpow_pos two_pos exponent).trans_le hle
  have htwo : (1 : Nat) < 2 := by decide
  rw [floorLog2_eq_log hr]
  have hlow := (Int.zpow_le_iff_le_log htwo hr).1 hle
  have hhigh := (Int.lt_zpow_iff_log_lt htwo hr).1 hlt
  omega

theorem le_floorLog2 {r : Rat} (hr : 0 < r) {exponent : Int} :
    exponent ≤ floorLog2 r ↔ (2 : Rat) ^ exponent ≤ r := by
  rw [floorLog2_eq_log hr]
  exact (Int.zpow_le_iff_le_log (by decide) hr).symm

theorem floorLog2_lt {r : Rat} (hr : 0 < r) {exponent : Int} :
    floorLog2 r < exponent ↔ r < (2 : Rat) ^ exponent := by
  rw [floorLog2_eq_log hr]
  exact (Int.lt_zpow_iff_log_lt (by decide) hr).symm

/-! ### Whole numbers -/

theorem roundHalfEven_natCast (n : Nat) : roundHalfEven (n : Rat) = n := by
  simp [roundHalfEven, Nat.mod_one]

theorem le_roundHalfEven {r : Rat} {n : Nat} (h : (n : Rat) ≤ r) : n ≤ roundHalfEven r := by
  have hwhole : n ≤ r.num.toNat / r.den := by
    rw [Nat.le_div_iff_mul_le r.den_pos]
    have hnum := (Rat.le_iff _ _).1 h
    rw [Rat.num_natCast, Rat.den_natCast, Nat.cast_one, mul_one] at hnum
    omega
  rw [roundHalfEven]
  split <;> omega

theorem roundHalfEven_le {r : Rat} {n : Nat} (h : r ≤ n) : roundHalfEven r ≤ n := by
  have hnum : r.num.toNat ≤ r.den * n := by
    have hnum := (Rat.le_iff _ _).1 h
    rw [Rat.num_natCast, Rat.den_natCast, Nat.cast_one, mul_one] at hnum
    rw [mul_comm]
    omega
  have hwhole : r.num.toNat / r.den ≤ n := Nat.div_le_of_le_mul hnum
  rw [roundHalfEven]
  split
  · rename_i hup
    have hrest : 0 < r.num.toNat % r.den := by
      have := r.den_pos
      omega
    -- With a rest the number is strictly below the bound, so there is room to round up.
    have hne : r.num.toNat / r.den ≠ n := by
      intro he
      have := Nat.div_add_mod r.num.toNat r.den
      rw [he] at this
      omega
    omega
  · exact hwhole

theorem roundHalfEven_eq_zero {r : Rat} (h : 2 * r < 1) : roundHalfEven r = 0 := by
  have hnum : 2 * r.num.toNat < r.den := by
    have hden : (0 : Rat) < r.den := by exact_mod_cast r.den_pos
    have hmul : 2 * (r.num : Rat) < r.den := by
      calc 2 * (r.num : Rat) = 2 * r * r.den := by rw [mul_assoc, Rat.mul_den_eq_num]
        _ < 1 * r.den := mul_lt_mul_of_pos_right h hden
        _ = r.den := one_mul _
    have : 2 * r.num < r.den := by exact_mod_cast hmul
    have := r.den_pos
    omega
  have hwhole : r.num.toNat / r.den = 0 := Nat.div_eq_of_lt (by omega)
  have hrest : r.num.toNat % r.den = r.num.toNat := Nat.mod_eq_of_lt (by omega)
  rw [roundHalfEven]
  simp only [hwhole, hrest]
  rw [if_neg (by omega)]

/-! ### Values -/

theorem value_pos {size : Nat} (h : 0 < size) : 0 < value size := by
  have hsignificand : 0 < significand size := by
    rw [significand]
    split <;> omega
  rw [value]
  positivity

theorem value_zero : value 0 = 0 := by
  rw [value, significand, if_pos (by decide), Nat.cast_zero, zero_mul]

/-- The scale of a magnitude is the power of two that rounding its value works with. -/
theorem scale_eq {size : Nat} (hpos : 0 < size) :
    max (floorLog2 (value size) - 52) (-1074) = scale size := by
  have htwo : (2 : Rat) ≠ 0 := two_ne_zero
  by_cases hsmall : size < 2 ^ 52
  · have hscale : scale size = -1074 := by
      rw [scale, Nat.div_eq_of_lt hsmall]
      rfl
    have hlt : floorLog2 (value size) < -1022 := by
      rw [floorLog2_lt (value_pos hpos), value, hscale, significand, if_pos hsmall]
      calc (size : Rat) * 2 ^ (-1074 : Int) < 2 ^ (52 : Nat) * 2 ^ (-1074 : Int) :=
            mul_lt_mul_of_pos_right (by exact_mod_cast hsmall) (by positivity)
        _ = 2 ^ (-1022 : Int) := by rw [← zpow_natCast, ← zpow_add₀ htwo]; norm_num
    omega
  · have hlow : 2 ^ 52 ≤ significand size := by
      rw [significand, if_neg hsmall]
      omega
    have hhigh : significand size < 2 ^ 53 := by
      rw [significand, if_neg hsmall]
      omega
    have hlog : floorLog2 (value size) = 52 + scale size := by
      apply floorLog2_eq
      · rw [value, zpow_add₀ htwo]
        exact mul_le_mul_of_nonneg_right (by exact_mod_cast hlow) (by positivity)
      · rw [value, show 52 + scale size + 1 = 53 + scale size by omega, zpow_add₀ htwo]
        exact mul_lt_mul_of_pos_right (by exact_mod_cast hhigh) (by positivity)
    have hscale : -1074 ≤ scale size := by
      rw [scale]
      omega
    omega

theorem nearestMagnitude_eq {r : Rat} (hr : r ≠ 0) {exponent : Int}
    (hexponent : max (floorLog2 r - 52) (-1074) = exponent) :
    nearestMagnitude r = min infiniteMagnitude
      ((exponent + 1074).toNat * 2 ^ 52 + roundHalfEven (r * (2 : Rat) ^ (-exponent))) := by
  rw [nearestMagnitude, if_neg hr, ← hexponent]

/-- A number that a double stands for is rounded to that double. -/
theorem nearestMagnitude_value {size : Nat} (h : size < infiniteMagnitude) :
    nearestMagnitude (value size) = size := by
  rcases Nat.eq_zero_or_pos size with rfl | hpos
  · rw [value_zero, nearestMagnitude, if_pos rfl]
  · have hunits : value size * (2 : Rat) ^ (-scale size) = significand size := by
      rw [value, mul_assoc, ← zpow_add₀ two_ne_zero, add_neg_cancel, zpow_zero, mul_one]
    rw [nearestMagnitude_eq (value_pos hpos).ne' (scale_eq hpos), hunits, roundHalfEven_natCast,
      significand, scale]
    split <;> omega

/-! ### The ends of the range -/

/-- A number that rounding does not see as subnormal has at least fifty-three bits of units. -/
theorem le_units {r : Rat} (hr : 0 < r) :
    2 ^ 52 ≤ roundHalfEven (r * (2 : Rat) ^ (-(floorLog2 r - 52))) := by
  apply le_roundHalfEven
  have hle := (le_floorLog2 hr).1 (le_refl (floorLog2 r))
  calc ((2 ^ 52 : Nat) : Rat) = 2 ^ floorLog2 r * 2 ^ (-(floorLog2 r - 52)) := by
        rw [← zpow_add₀ two_ne_zero, show floorLog2 r + -(floorLog2 r - 52) = (52 : Nat) by omega,
          zpow_natCast, Nat.cast_pow, Nat.cast_ofNat]
    _ ≤ r * 2 ^ (-(floorLog2 r - 52)) := mul_le_mul_of_nonneg_right hle (by positivity)

theorem units_le {r : Rat} (hr : 0 < r) {exponent : Int} (h : floorLog2 r - 52 ≤ exponent) :
    roundHalfEven (r * (2 : Rat) ^ (-exponent)) ≤ 2 ^ 53 := by
  apply roundHalfEven_le
  have hlt := (floorLog2_lt hr).1 (lt_add_one (floorLog2 r))
  calc r * (2 : Rat) ^ (-exponent) ≤ 2 ^ (floorLog2 r + 1) * 2 ^ (-exponent) :=
        mul_le_mul_of_nonneg_right hlt.le (by positivity)
    _ = 2 ^ (floorLog2 r + 1 + -exponent) := (zpow_add₀ two_ne_zero _ _).symm
    _ ≤ 2 ^ (53 : Int) := zpow_le_zpow_right₀ one_le_two (by omega)
    _ = ((2 ^ 53 : Nat) : Rat) := by norm_num

/-- Numbers beyond the range go to infinity. -/
theorem nearestMagnitude_of_le {r : Rat} (h : (2 : Rat) ^ (1024 : Int) ≤ r) :
    nearestMagnitude r = infiniteMagnitude := by
  have hr : 0 < r := (zpow_pos two_pos _).trans_le h
  have hlog := (le_floorLog2 hr).2 h
  have hmax : max (floorLog2 r - 52) (-1074) = floorLog2 r - 52 := by omega
  have hunits := le_units hr
  rw [nearestMagnitude_eq hr.ne' hmax, infiniteMagnitude]
  omega

/-- Numbers below half of the least double go to zero. -/
theorem nearestMagnitude_of_lt {r : Rat} (hr : 0 < r) (h : r < (2 : Rat) ^ (-1075 : Int)) :
    nearestMagnitude r = 0 := by
  have hlog := (floorLog2_lt hr).2 h
  have hmax : max (floorLog2 r - 52) (-1074) = -1074 := by omega
  have hunits : 2 * (r * (2 : Rat) ^ (-(-1074) : Int)) < 1 := by
    calc 2 * (r * (2 : Rat) ^ (-(-1074) : Int))
        < 2 * ((2 : Rat) ^ (-1075 : Int) * (2 : Rat) ^ (-(-1074) : Int)) :=
          mul_lt_mul_of_pos_left (mul_lt_mul_of_pos_right h (by positivity)) two_pos
      _ = 1 := by rw [← zpow_add₀ two_ne_zero]; norm_num
  rw [nearestMagnitude_eq hr.ne' hmax, roundHalfEven_eq_zero hunits]
  rfl

/-- Numbers that leave room below the end of the range stay finite. -/
theorem nearestMagnitude_lt {r : Rat} (h : r < (2 : Rat) ^ (1023 : Int)) (hr : 0 ≤ r) :
    nearestMagnitude r < infiniteMagnitude := by
  rcases hr.eq_or_lt with hzero | hpos
  · rw [← hzero, nearestMagnitude, if_pos rfl]
    decide
  · have hlog := (floorLog2_lt hpos).2 h
    have hunits := units_le hpos (le_max_left (floorLog2 r - 52) (-1074))
    rw [nearestMagnitude_eq hpos.ne' rfl, infiniteMagnitude]
    omega

end BenchReport.Binary64

import BenchReport.Number.Decimal
import BenchReport.Proofs.Number.Nearest

/-!
# What a decimal says

The double nearest to a decimal depends on its number alone, not on how many zeros are written: the two ends of the range that are settled by the place of the leading digit agree with rounding the number. So the shortest decimal of a double, trimmed or not, reads back as the double.
-/

namespace BenchReport.Decimal

open Binary64

/-! ### The place of the leading digit -/

theorem digitCount_pos (n : Nat) : 0 < digitCount n := Nat.length_toDigits_pos

theorem lt_pow_digitCount (n : Nat) : n < 10 ^ digitCount n :=
  (Nat.length_toDigits_le_iff (by decide) (digitCount_pos n)).1 (le_refl _)

theorem pow_digitCount_le {n : Nat} (h : 0 < n) : 10 ^ (digitCount n - 1) ≤ n := by
  by_cases hone : digitCount n = 1
  · rw [hone]
    exact h
  · have hpos := digitCount_pos n
    by_contra hlt
    have := (Nat.length_toDigits_le_iff (b := 10) (n := n) (by decide)
      (show 0 < digitCount n - 1 by omega)).2 (by omega)
    rw [← digitCount] at this
    omega

theorem toRat_pos {d : Decimal} (h : 0 < d.digits) : 0 < d.toRat := by
  rw [toRat]
  positivity

theorem pow_leadingExponent_le {d : Decimal} (h : 0 < d.digits) :
    (10 : Rat) ^ d.leadingExponent ≤ d.toRat := by
  have hpos := digitCount_pos d.digits
  have hten : (10 : Rat) ≠ 0 := by norm_num
  have hle : (10 : Rat) ^ (digitCount d.digits - 1) ≤ d.digits := by
    exact_mod_cast pow_digitCount_le h
  rw [toRat, leadingExponent,
    show (digitCount d.digits + d.exponent - 1 : Int) = (digitCount d.digits - 1 : Nat) + d.exponent by
      omega, zpow_add₀ hten, zpow_natCast]
  exact mul_le_mul_of_nonneg_right hle (by positivity)

theorem lt_pow_leadingExponent (d : Decimal) :
    d.toRat < (10 : Rat) ^ (d.leadingExponent + 1) := by
  have hten : (10 : Rat) ≠ 0 := by norm_num
  have hlt : (d.digits : Rat) < 10 ^ digitCount d.digits := by
    exact_mod_cast lt_pow_digitCount d.digits
  rw [toRat, leadingExponent,
    show (digitCount d.digits + d.exponent - 1 + 1 : Int) = (digitCount d.digits : Nat) + d.exponent by
      omega, zpow_add₀ hten, zpow_natCast]
  exact mul_lt_mul_of_pos_right hlt (by positivity)

/-! ### The nearest double -/

theorem two_pow_le_ten_pow : (2 : Rat) ^ (1075 : Int) ≤ 10 ^ (400 : Int) := by
  rw [show (1075 : Int) = (43 * 25 : Nat) from rfl, show (400 : Int) = (16 * 25 : Nat) from rfl,
    zpow_natCast, zpow_natCast, pow_mul, pow_mul]
  exact pow_le_pow_left₀ (by positivity) (by norm_num) 25

/-- The nearest double of a decimal is that of its number. -/
theorem nearestMagnitude_eq (d : Decimal) :
    d.nearestMagnitude = Binary64.nearestMagnitude d.toRat := by
  rw [nearestMagnitude]
  by_cases hzero : d.digits = 0
  · rw [if_pos hzero, toRat, hzero, Nat.cast_zero, zero_mul, Binary64.nearestMagnitude, if_pos rfl]
  rw [if_neg hzero]
  have hpos : 0 < d.digits := Nat.pos_of_ne_zero hzero
  by_cases hlarge : 400 < d.leadingExponent
  · have hle : (2 : Rat) ^ (1024 : Int) ≤ d.toRat :=
      calc (2 : Rat) ^ (1024 : Int) ≤ 2 ^ (1075 : Int) := zpow_le_zpow_right₀ one_le_two (by decide)
        _ ≤ 10 ^ (400 : Int) := two_pow_le_ten_pow
        _ ≤ 10 ^ d.leadingExponent := zpow_le_zpow_right₀ (by norm_num) hlarge.le
        _ ≤ d.toRat := pow_leadingExponent_le hpos
    rw [if_pos hlarge, nearestMagnitude_of_le hle]
  rw [if_neg hlarge]
  by_cases hsmall : d.leadingExponent < -400
  · have hlt : d.toRat < (2 : Rat) ^ (-1075 : Int) :=
      calc d.toRat < 10 ^ (d.leadingExponent + 1) := lt_pow_leadingExponent d
        _ ≤ 10 ^ (-400 : Int) := zpow_le_zpow_right₀ (by norm_num) (by omega)
        _ = (10 ^ (400 : Int))⁻¹ := zpow_neg _ _
        _ ≤ (2 ^ (1075 : Int))⁻¹ := inv_anti₀ (by positivity) two_pow_le_ten_pow
        _ = 2 ^ (-1075 : Int) := (zpow_neg _ _).symm
    rw [if_pos hsmall, nearestMagnitude_of_lt (toRat_pos hpos) hlt]
  · rw [if_neg hsmall]

/-! ### Zeros at the end -/

theorem toRat_trim (d : Decimal) : d.trim.toRat = d.toRat := by
  fun_induction trim d with
  | case1 d h => rw [toRat, toRat, h, Nat.cast_zero, zero_mul, zero_mul]
  | case2 d h hten ih =>
      rw [ih, toRat, toRat]
      have hdigits : (d.digits : Rat) = (d.digits / 10 : Nat) * 10 := by
        exact_mod_cast (Nat.div_mul_cancel (Nat.dvd_of_mod_eq_zero hten)).symm
      rw [hdigits, zpow_add₀ (by norm_num), zpow_one]
      ring
  | case3 => rfl

/-- A trimmed zero has no exponent. -/
theorem exponent_trim (d : Decimal) (h : d.trim.digits = 0) : d.trim.exponent = 0 := by
  fun_induction trim d with
  | case1 => rfl
  | case2 d _ _ ih => exact ih h
  | case3 d hne => exact absurd h hne

/-! ### The decimals of a double -/

theorem toRat_exact (size : Nat) : (exact size).toRat = value size := by
  rw [exact, value]
  by_cases hscale : 0 ≤ scale size
  · have hpow : ((2 ^ (scale size).toNat : Nat) : Rat) = 2 ^ scale size := by
      rw [Nat.cast_pow, Nat.cast_ofNat, ← zpow_natCast, Int.toNat_of_nonneg hscale]
    simp only [if_pos hscale, toRat]
    rw [Nat.cast_mul, hpow, zpow_zero, mul_one]
  · have hpow : ((5 ^ (-scale size).toNat : Nat) : Rat) = 5 ^ (-scale size) := by
      rw [Nat.cast_pow, Nat.cast_ofNat, ← zpow_natCast, Int.toNat_of_nonneg (by omega)]
    have hten : (10 : Rat) ^ scale size = 2 ^ scale size * 5 ^ scale size := by
      rw [← mul_zpow]
      norm_num
    have hfive : (5 : Rat) ^ (-scale size) * 5 ^ scale size = 1 := by
      rw [← zpow_add₀ (by norm_num), neg_add_cancel, zpow_zero]
    simp only [if_neg hscale, toRat]
    rw [Nat.cast_mul, hpow, hten]
    calc (significand size : Rat) * 5 ^ (-scale size) * (2 ^ scale size * 5 ^ scale size)
        = significand size * 2 ^ scale size * (5 ^ (-scale size) * 5 ^ scale size) := by ring
      _ = significand size * 2 ^ scale size := by rw [hfive, mul_one]

/-- The shortest decimal of a double reads back as the double. -/
theorem nearestMagnitude_shortest (tie : Tie) {size : Nat} (h : size < infiniteMagnitude) :
    (shortest tie size).nearestMagnitude = size := by
  rw [nearestMagnitude_eq, shortest, toRat_trim, ← nearestMagnitude_eq]
  cases hfound : (List.range' 1 17).findSome? (ofCount? tie size) with
  | none =>
      rw [Option.getD_none, nearestMagnitude_eq, toRat_exact, nearestMagnitude_value h]
  | some d =>
      obtain ⟨count, _, hcount⟩ := List.exists_of_findSome?_eq_some hfound
      have hread := List.find?_some hcount
      rw [Option.getD_some]
      exact eq_of_beq hread

/-- A shortest zero has no exponent. -/
theorem exponent_shortest (tie : Tie) {size : Nat} (h : (shortest tie size).digits = 0) :
    (shortest tie size).exponent = 0 :=
  exponent_trim _ h

end BenchReport.Decimal

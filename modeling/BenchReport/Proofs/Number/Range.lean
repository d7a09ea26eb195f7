import BenchReport.Proofs.Number.Nearest
import Mathlib.Tactic.Linarith

/-!
# The range of doubles

Rounding keeps the order of numbers, so whether a number leaves the range is one comparison: with the midpoint above the largest double, which is a tie and goes up to infinity. Inside the range and away from the least doubles, rounding moves a number by at most one part in 2⁵³.

The formula for the number behind a magnitude also has a value at the magnitude of infinity, the power of two that the midpoint lies below. Taking that value for infinity keeps the order of magnitudes, so bounds from below need no case for results that have left the range.
-/

namespace BenchReport.Binary64

/-! ### Rounding to whole numbers -/

section Whole

variable {r : Rat} {whole : Nat} (hle : (whole : Rat) ≤ r) (hlt : r < whole + 1)
include hle

theorem cast_num_eq : ((r.num.toNat : Nat) : Rat) = r * r.den := by
  have hnum : (0 : Int) ≤ r.num := Rat.num_nonneg.2 ((Nat.cast_nonneg whole).trans hle)
  rw [Rat.mul_den_eq_num]
  exact_mod_cast Int.toNat_of_nonneg hnum

include hlt

theorem num_div_den : r.num.toNat / r.den = whole := by
  have hden : (0 : Rat) < r.den := by exact_mod_cast r.den_pos
  apply Nat.div_eq_of_lt_le
  · have hmul : (whole : Rat) * r.den ≤ r.num.toNat := by
      rw [cast_num_eq hle]
      exact mul_le_mul_of_nonneg_right hle hden.le
    exact_mod_cast hmul
  · have hmul : (r.num.toNat : Rat) < (whole + 1) * r.den := by
      rw [cast_num_eq hle]
      exact mul_lt_mul_of_pos_right hlt hden
    exact_mod_cast hmul

theorem num_mod_den : ((r.num.toNat % r.den : Nat) : Rat) = (r - whole) * r.den := by
  have hsplit := Nat.div_add_mod r.num.toNat r.den
  rw [num_div_den hle hlt] at hsplit
  have hsplit : (r.den : Rat) * whole + (r.num.toNat % r.den : Nat) = r * r.den := by
    rw [← cast_num_eq hle]
    exact_mod_cast hsplit
  linarith only [hsplit]

theorem rest_above_half : r.den < 2 * (r.num.toNat % r.den) ↔ (whole : Rat) + 1 / 2 < r := by
  have hden : (0 : Rat) < r.den := by exact_mod_cast r.den_pos
  rw [← Nat.cast_lt (α := Rat), Nat.cast_mul, num_mod_den hle hlt, Nat.cast_ofNat]
  constructor
  · intro h
    by_contra hnot
    have := mul_le_mul_of_nonneg_right (show r - whole ≤ 1 / 2 by linarith only [hnot]) hden.le
    linarith only [h, this]
  · intro h
    have := mul_lt_mul_of_pos_right (show 1 / 2 < r - whole by linarith only [h]) hden
    linarith only [this]

theorem rest_half : 2 * (r.num.toNat % r.den) = r.den ↔ r = whole + 1 / 2 := by
  have hden : (0 : Rat) < r.den := by exact_mod_cast r.den_pos
  rw [← Nat.cast_inj (R := Rat), Nat.cast_mul, num_mod_den hle hlt, Nat.cast_ofNat]
  constructor
  · intro h
    have : (r - whole) * r.den = 1 / 2 * r.den := by linarith only [h]
    linarith only [mul_right_cancel₀ hden.ne' this]
  · intro h
    rw [show r - whole = 1 / 2 by linarith only [h]]
    ring

/-- Rounding takes the whole part or the next number, as the rest is below or above a half; a half goes to the even one of the two. -/
theorem roundHalfEven_eq :
    roundHalfEven r =
      if (whole : Rat) + 1 / 2 < r ∨ (r = whole + 1 / 2 ∧ whole % 2 = 1) then whole + 1
      else whole := by
  rw [roundHalfEven]
  simp only [num_div_den hle hlt, rest_above_half hle hlt, rest_half hle hlt]

end Whole

theorem roundHalfEven_mono {r s : Rat} (hr : 0 ≤ r) (h : r ≤ s) :
    roundHalfEven r ≤ roundHalfEven s := by
  have hs : 0 ≤ s := hr.trans h
  have hrle := Nat.floor_le hr
  have hrlt := Nat.lt_floor_add_one r
  have hsle := Nat.floor_le hs
  have hslt := Nat.lt_floor_add_one s
  rcases (Nat.floor_mono h).lt_or_eq with hlt | heq
  · -- A whole number lies between the two.
    have hup : roundHalfEven r ≤ ⌊r⌋₊ + 1 := by
      apply roundHalfEven_le
      rw [Nat.cast_add, Nat.cast_one]
      exact hrlt.le
    have hdown : ⌊s⌋₊ ≤ roundHalfEven s := le_roundHalfEven hsle
    omega
  · rw [← heq] at hsle hslt
    rw [roundHalfEven_eq hrle hrlt, roundHalfEven_eq hsle hslt]
    split
    · rename_i hup
      rw [if_pos]
      rcases hup with hlt | ⟨htie, hodd⟩
      · exact .inl (hlt.trans_le h)
      · rcases (htie ▸ h).lt_or_eq with hlt | htie'
        · exact .inl hlt
        · exact .inr ⟨htie'.symm, hodd⟩
    · split <;> omega

/-! ### Order -/

/-- Fewer units of the least power, or of the power of the leading bit, are a smaller magnitude. -/
theorem nearestMagnitude_mono {r s : Rat} (hr : 0 ≤ r) (h : r ≤ s) :
    nearestMagnitude r ≤ nearestMagnitude s := by
  rcases hr.eq_or_lt with hzero | hpos
  · rw [← hzero, nearestMagnitude, if_pos rfl]
    exact Nat.zero_le _
  have hspos : 0 < s := hpos.trans_le h
  have hlog : floorLog2 r ≤ floorLog2 s :=
    (le_floorLog2 hspos).2 (((le_floorLog2 hpos).1 le_rfl).trans h)
  rw [nearestMagnitude_eq hpos.ne' rfl, nearestMagnitude_eq hspos.ne' rfl]
  apply min_le_min_left
  rcases (show max (floorLog2 r - 52) (-1074) ≤ max (floorLog2 s - 52) (-1074) by
    omega).lt_or_eq with hlt | heq
  · have hunits := units_le hpos (le_max_left (floorLog2 r - 52) (-1074))
    have hmax : max (floorLog2 s - 52) (-1074) = floorLog2 s - 52 := by omega
    have hnormal := le_units hspos
    rw [hmax] at hlt ⊢
    omega
  · rw [heq]
    apply Nat.add_le_add_left
    apply roundHalfEven_mono
    · positivity
    · exact mul_le_mul_of_nonneg_right h (by positivity)

/-- Larger magnitudes stand for larger numbers, also past the largest double. -/
theorem value_mono {size bound : Nat} (h : size ≤ bound) : value size ≤ value bound := by
  rcases (Nat.div_le_div_right (c := 2 ^ 52) h).eq_or_lt with heq | hlt
  · have hsignificand : significand size ≤ significand bound := by
      rw [significand, significand]
      split <;> split <;> omega
    rw [value, value, scale, scale, heq]
    exact mul_le_mul_of_nonneg_right (by exact_mod_cast hsignificand) (by positivity)
  · -- The smaller one is below the power of two at which the larger one's exponent begins.
    have hbelow : significand size ≤ 2 ^ (if size < 2 ^ 52 then 52 else 53) := by
      rw [significand]
      split <;> omega
    have habove : 2 ^ 52 ≤ significand bound := by
      rw [significand]
      split <;> omega
    have hscale : scale size + ((if size < 2 ^ 52 then 52 else 53 : Nat) : Int) ≤
        scale bound + 52 := by
      rw [scale, scale]
      split <;> omega
    calc value size
        ≤ 2 ^ (if size < 2 ^ 52 then 52 else 53 : Nat) * 2 ^ scale size :=
          mul_le_mul_of_nonneg_right (by exact_mod_cast hbelow) (by positivity)
      _ = 2 ^ (scale size + ((if size < 2 ^ 52 then 52 else 53 : Nat) : Int)) := by
          rw [mul_comm, zpow_add₀ two_ne_zero, zpow_natCast]
      _ ≤ 2 ^ (scale bound + 52) := zpow_le_zpow_right₀ one_le_two hscale
      _ = 2 ^ (52 : Nat) * 2 ^ scale bound := by
          rw [mul_comm, zpow_add₀ two_ne_zero, ← zpow_natCast]
          rfl
      _ ≤ value bound := mul_le_mul_of_nonneg_right (by exact_mod_cast habove) (by positivity)

theorem value_nonneg (size : Nat) : 0 ≤ value size := by
  rw [value]
  positivity

/-- What is at most some double is rounded to at most that double. -/
theorem nearestMagnitude_le {r : Rat} {size : Nat} (hr : 0 ≤ r) (h : r ≤ value size)
    (hsize : size < infiniteMagnitude) : nearestMagnitude r ≤ size := by
  have hmono := nearestMagnitude_mono hr h
  rwa [nearestMagnitude_value hsize] at hmono

theorem le_nearestMagnitude {r : Rat} {size : Nat} (h : value size ≤ r)
    (hsize : size < infiniteMagnitude) : size ≤ nearestMagnitude r := by
  have hmono := nearestMagnitude_mono (value_nonneg size) h
  rwa [nearestMagnitude_value hsize] at hmono

theorem nearestMagnitude_le_infinite (r : Rat) : nearestMagnitude r ≤ infiniteMagnitude := by
  rw [nearestMagnitude]
  split
  · exact Nat.zero_le _
  · exact min_le_left _ _

/-! ### The end of the range -/

/-- The midpoint between the largest double and the power of two above it. -/
def rangeEnd : Rat := 2 ^ (1024 : Int) - 2 ^ (970 : Int)

theorem value_infinite : value infiniteMagnitude = 2 ^ (1024 : Int) := by
  have hscale : scale infiniteMagnitude = 972 := by decide
  have hsignificand : significand infiniteMagnitude = 2 ^ 52 := by decide
  rw [value, hscale, hsignificand, Nat.cast_pow, Nat.cast_ofNat, ← zpow_natCast,
    ← zpow_add₀ two_ne_zero]
  rfl

/-- Finite doubles stay below the end of the range by at least half of their last place. -/
theorem value_le_of_lt {size : Nat} (h : size < infiniteMagnitude) :
    value size ≤ 2 ^ (1024 : Int) - 2 ^ (971 : Int) := by
  have hscale : scale (infiniteMagnitude - 1) = 971 := by decide
  have hsignificand : significand (infiniteMagnitude - 1) = 2 ^ 53 - 1 := by decide
  have hlargest : value (infiniteMagnitude - 1) = 2 ^ (1024 : Int) - 2 ^ (971 : Int) := by
    rw [value, hscale, hsignificand, Nat.cast_sub (by decide), Nat.cast_pow, Nat.cast_ofNat,
      Nat.cast_one, sub_one_mul, show (1024 : Int) = (53 : Nat) + 971 by rfl,
      zpow_add₀ two_ne_zero, zpow_natCast]
  rw [← hlargest]
  apply value_mono
  omega

theorem rangeEnd_lt : rangeEnd < 2 ^ (1024 : Int) := sub_lt_self _ (zpow_pos two_pos _)

theorem value_lt_rangeEnd {size : Nat} (h : size < infiniteMagnitude) : value size < rangeEnd :=
  (value_le_of_lt h).trans_lt (sub_lt_sub_left (zpow_lt_zpow_right₀ one_lt_two (by decide)) _)

/-- Less than half of the last place of the largest double takes no finite double out of the range. -/
theorem add_value_lt_rangeEnd {r : Rat} {size : Nat} (hr : r < 2 ^ (970 : Int))
    (h : size < infiniteMagnitude) : r + value size < rangeEnd := by
  have hlast : (2 : Rat) ^ (971 : Int) = 2 ^ (970 : Int) + 2 ^ (970 : Int) := by
    rw [show (971 : Int) = 970 + 1 by rfl, zpow_add₀ two_ne_zero, zpow_one, mul_two]
  have hvalue := value_le_of_lt h
  rw [hlast] at hvalue
  rw [rangeEnd]
  -- The powers stay closed, since they are too large to be compared as numerals.
  generalize (2 : Rat) ^ (970 : Int) = half at hr hvalue ⊢
  generalize (2 : Rat) ^ (1024 : Int) = top at hvalue ⊢
  linarith only [hr, hvalue]

theorem rangeEnd_units : rangeEnd * (2 : Rat) ^ (-971 : Int) = (2 ^ 53 - 1 : Nat) + 1 / 2 := by
  rw [rangeEnd, sub_mul, ← zpow_add₀ two_ne_zero, ← zpow_add₀ two_ne_zero]
  norm_num

theorem nearestMagnitude_lt_of_lt {r : Rat} (hr : 0 ≤ r) (h : r < rangeEnd) :
    nearestMagnitude r < infiniteMagnitude := by
  rcases hr.eq_or_lt with hzero | hpos
  · rw [← hzero, nearestMagnitude, if_pos rfl]
    decide
  have hlog := (floorLog2_lt hpos).2 (h.trans rangeEnd_lt)
  rcases (show floorLog2 r < 1023 ∨ floorLog2 r = 1023 by omega) with hlow | htop
  · exact nearestMagnitude_lt ((floorLog2_lt hpos).1 hlow) hr
  · -- In the topmost binade the units stay below the midpoint, so they are not rounded up.
    have hmax : max (floorLog2 r - 52) (-1074) = 971 := by omega
    have hunits : r * (2 : Rat) ^ (-971 : Int) < (2 ^ 53 - 1 : Nat) + 1 / 2 := by
      rw [← rangeEnd_units]
      exact mul_lt_mul_of_pos_right h (by positivity)
    have hround : roundHalfEven (r * (2 : Rat) ^ (-971 : Int)) ≤ 2 ^ 53 - 1 := by
      by_cases hle : ((2 ^ 53 - 1 : Nat) : Rat) ≤ r * (2 : Rat) ^ (-971 : Int)
      · have hnext : r * (2 : Rat) ^ (-971 : Int) < (2 ^ 53 - 1 : Nat) + 1 :=
          hunits.trans (by norm_num)
        rw [roundHalfEven_eq hle hnext, if_neg]
        rintro (hhalf | ⟨hhalf, _⟩) <;> linarith only [hunits, hhalf]
      · exact roundHalfEven_le (not_le.1 hle).le
    rw [nearestMagnitude_eq hpos.ne' hmax, infiniteMagnitude]
    omega

theorem nearestMagnitude_of_rangeEnd_le {r : Rat} (h : rangeEnd ≤ r) :
    nearestMagnitude r = infiniteMagnitude := by
  have hpos : 0 < rangeEnd := by
    rw [rangeEnd, sub_pos]
    exact zpow_lt_zpow_right₀ one_lt_two (by decide)
  have hlog : floorLog2 rangeEnd = 1023 := by
    apply floorLog2_eq
    · have hdouble : (2 : Rat) ^ (1024 : Int) = 2 ^ (1023 : Int) + 2 ^ (1023 : Int) := by
        rw [show (1024 : Int) = 1023 + 1 by rfl, zpow_add₀ two_ne_zero, zpow_one, mul_two]
      rw [rangeEnd, hdouble, le_sub_iff_add_le]
      exact add_le_add_right (zpow_le_zpow_right₀ one_le_two (by decide)) _
    · exact rangeEnd_lt
  have hend : nearestMagnitude rangeEnd = infiniteMagnitude := by
    have hmax : max (floorLog2 rangeEnd - 52) (-1074) = 971 := by omega
    rw [nearestMagnitude_eq hpos.ne' hmax, rangeEnd_units,
      @roundHalfEven_eq _ (2 ^ 53 - 1) (by norm_num) (by norm_num),
      if_pos (.inr ⟨rfl, by decide⟩)]
    decide
  apply (nearestMagnitude_le_infinite r).antisymm
  rw [← hend]
  exact nearestMagnitude_mono hpos.le h

/-- A number rounds to a finite double exactly if it is below the end of the range. -/
theorem nearestMagnitude_lt_iff {r : Rat} (hr : 0 ≤ r) :
    nearestMagnitude r < infiniteMagnitude ↔ r < rangeEnd := by
  constructor
  · intro hlt
    by_contra hnot
    rw [nearestMagnitude_of_rangeEnd_le (not_lt.1 hnot)] at hlt
    exact lt_irrefl _ hlt
  · exact nearestMagnitude_lt_of_lt hr

/-! ### The error of rounding -/

/-- The magnitude with so many units of a power of two, the next power included. -/
theorem value_units {exponent : Int} {units : Nat} (hleast : -1074 ≤ exponent)
    (hunits : units ≤ 2 ^ 53) (hnormal : -1074 < exponent → 2 ^ 52 ≤ units) :
    value ((exponent + 1074).toNat * 2 ^ 52 + units) = units * (2 : Rat) ^ exponent := by
  rcases hunits.lt_or_eq with hlt | rfl
  · rcases hleast.eq_or_lt with rfl | hexponent
    · rw [show ((-1074 : Int) + 1074).toNat * 2 ^ 52 + units = units by omega]
      have hscale : scale units = -1074 := by
        rw [scale]
        omega
      have hsignificand : significand units = units := by
        rw [significand]
        split <;> omega
      rw [value, hscale, hsignificand]
    · have hlow := hnormal hexponent
      have hscale : scale ((exponent + 1074).toNat * 2 ^ 52 + units) = exponent := by
        rw [scale]
        omega
      have hsignificand : significand ((exponent + 1074).toNat * 2 ^ 52 + units) = units := by
        rw [significand]
        split <;> omega
      rw [value, hscale, hsignificand]
  · -- The next power of two has half as many units, each of them twice as large.
    have hscale : scale ((exponent + 1074).toNat * 2 ^ 52 + 2 ^ 53) = exponent + 1 := by
      rw [scale]
      omega
    have hsignificand : significand ((exponent + 1074).toNat * 2 ^ 52 + 2 ^ 53) = 2 ^ 52 := by
      rw [significand]
      split <;> omega
    rw [value, hscale, hsignificand, zpow_add₀ two_ne_zero, zpow_one]
    push_cast
    ring

/-- Rounding does not carry a number over a power of two. -/
theorem nearestMagnitude_le_twoPow {r : Rat} {exponent : Nat} (hr : 0 ≤ r) (h : r ≤ 2 ^ exponent)
    (hexponent : exponent ≤ 1023) :
    nearestMagnitude r < infiniteMagnitude ∧ value (nearestMagnitude r) ≤ 2 ^ exponent := by
  have hinfinite : infiniteMagnitude = 2047 * 2 ^ 52 := rfl
  have hvalue : value ((1023 + exponent) * 2 ^ 52) = 2 ^ exponent := by
    have hunits := @value_units (exponent - 52 : Int) (2 ^ 52) (by omega) (by norm_num)
      fun _ => le_rfl
    have hsize : (((exponent - 52 : Int) + 1074).toNat * 2 ^ 52 + 2 ^ 52) =
        (1023 + exponent) * 2 ^ 52 := by omega
    have hpower : ((2 ^ 52 : Nat) : Rat) * 2 ^ (exponent - 52 : Int) = 2 ^ exponent := by
      rw [Nat.cast_pow, Nat.cast_ofNat, ← zpow_natCast, ← zpow_add₀ two_ne_zero,
        ← zpow_natCast]
      congr 1
      omega
    rwa [hsize, hpower] at hunits
  have hsize : nearestMagnitude r ≤ (1023 + exponent) * 2 ^ 52 :=
    nearestMagnitude_le hr (h.trans_eq hvalue.symm) (by omega)
  exact ⟨by omega, (value_mono hsize).trans_eq hvalue⟩

theorem abs_roundHalfEven_sub_le {r : Rat} (hr : 0 ≤ r) :
    |(roundHalfEven r : Rat) - r| ≤ 1 / 2 := by
  have hle := Nat.floor_le hr
  have hlt := Nat.lt_floor_add_one r
  rw [roundHalfEven_eq hle hlt, abs_le]
  split
  · rename_i hup
    push_cast
    rcases hup with hhalf | ⟨htie, _⟩ <;> constructor <;> linarith
  · rename_i hdown
    rw [not_or] at hdown
    constructor <;> linarith only [hle, hdown.1]

section Error

variable {r : Rat} (hr : (2 : Rat) ^ (-1022 : Int) ≤ r)
include hr

/-- The units of a number that is not subnormal, and their error in proportion to the number. -/
theorem nearestMagnitude_normal : ∃ exponent : Int, ∃ units : Nat,
    nearestMagnitude r = min infiniteMagnitude ((exponent + 1074).toNat * 2 ^ 52 + units) ∧
      value ((exponent + 1074).toNat * 2 ^ 52 + units) = units * (2 : Rat) ^ exponent ∧
      |units * (2 : Rat) ^ exponent - r| ≤ r / 2 ^ 53 := by
  have hpos : 0 < r := (zpow_pos two_pos _).trans_le hr
  have hlog := (le_floorLog2 hpos).2 hr
  have hmax : max (floorLog2 r - 52) (-1074) = floorLog2 r - 52 := by omega
  refine ⟨floorLog2 r - 52, roundHalfEven (r * 2 ^ (-(floorLog2 r - 52))),
    nearestMagnitude_eq hpos.ne' hmax, ?_, ?_⟩
  · exact value_units (by omega) (units_le hpos le_rfl) fun _ => le_units hpos
  · have hpower : (0 : Rat) < 2 ^ (floorLog2 r - 52) := by positivity
    have hscaled : r * 2 ^ (-(floorLog2 r - 52)) * 2 ^ (floorLog2 r - 52) = r := by
      rw [mul_assoc, ← zpow_add₀ two_ne_zero, neg_add_cancel, zpow_zero, mul_one]
    have hunit : (2 : Rat) ^ (floorLog2 r - 52) * 2 ^ 52 ≤ r := by
      rw [← zpow_natCast, ← zpow_add₀ two_ne_zero]
      exact (le_floorLog2 hpos).1 (by norm_num)
    have herror := abs_roundHalfEven_sub_le (r := r * 2 ^ (-(floorLog2 r - 52))) (by positivity)
    calc |(roundHalfEven (r * 2 ^ (-(floorLog2 r - 52))) : Rat) * 2 ^ (floorLog2 r - 52) - r|
        = |(roundHalfEven (r * 2 ^ (-(floorLog2 r - 52))) : Rat) -
            r * 2 ^ (-(floorLog2 r - 52))| * 2 ^ (floorLog2 r - 52) := by
          rw [← abs_of_pos hpower, ← abs_mul, abs_of_pos hpower, sub_mul, hscaled]
      _ ≤ 1 / 2 * 2 ^ (floorLog2 r - 52) := mul_le_mul_of_nonneg_right herror hpower.le
      _ ≤ r / 2 ^ 53 := by
          rw [le_div_iff₀ (by positivity)]
          calc (1 / 2 * 2 ^ (floorLog2 r - 52) * 2 ^ 53 : Rat)
              = 2 ^ (floorLog2 r - 52) * 2 ^ 52 := by ring
            _ ≤ r := hunit

/-- Rounding up adds at most one part in 2⁵³. -/
theorem value_nearestMagnitude_le : value (nearestMagnitude r) ≤ r + r / 2 ^ 53 := by
  obtain ⟨exponent, units, hnearest, hvalue, herror⟩ := nearestMagnitude_normal hr
  have hle : value (nearestMagnitude r) ≤ units * (2 : Rat) ^ exponent := by
    rw [← hvalue, hnearest]
    exact value_mono (min_le_right _ _)
  have hupper := (abs_le.1 herror).2
  linarith only [hle, hupper]

/-- Rounding down takes away at most one part in 2⁵³, unless the number leaves the range. -/
theorem le_value_nearestMagnitude :
    (2 : Rat) ^ (1024 : Int) ≤ value (nearestMagnitude r) ∨
      r - r / 2 ^ 53 ≤ value (nearestMagnitude r) := by
  obtain ⟨exponent, units, hnearest, hvalue, herror⟩ := nearestMagnitude_normal hr
  rcases le_total infiniteMagnitude ((exponent + 1074).toNat * 2 ^ 52 + units) with hle | hle
  · rw [hnearest, min_eq_left hle, value_infinite]
    exact .inl le_rfl
  · rw [hnearest, min_eq_right hle, hvalue]
    have hlower := (abs_le.1 herror).1
    exact .inr (by linarith only [hlower])

end Error

end BenchReport.Binary64

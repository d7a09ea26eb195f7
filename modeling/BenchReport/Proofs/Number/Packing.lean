import BenchReport.Proofs.Number.Order
import BenchReport.Proofs.Number.Range

/-!
# Rounding mantissas

The result of an operation on doubles comes as a mantissa with an exponent: bits that do not fit are cut off, two residual bits remember what was lost, the mantissa is rounded by them, and what remains is packed into a pattern. All of it together is rounding the number that the mantissa stands for to the nearest double.
-/

namespace BenchReport.Binary64

open Float.Model Float.Model.UnpackedFloat

/-! ### Bits that are cut off -/

/-- What a mantissa with its two residual bits says about a number: its whole part, and on which side of the half above it the number lies. -/
def Measures : ExtendedMantissa → Rat → Prop
  | ⟨mantissa, false, false⟩, r => r = mantissa
  | ⟨mantissa, false, true⟩, r => mantissa < r ∧ r < mantissa + 1 / 2
  | ⟨mantissa, true, false⟩, r => r = mantissa + 1 / 2
  | ⟨mantissa, true, true⟩, r => mantissa + 1 / 2 < r ∧ r < mantissa + 1

section Measures

variable {shifted : ExtendedMantissa} {r : Rat} (h : Measures shifted r)
include h

theorem Measures.bounds : (shifted.mantissa : Rat) ≤ r ∧ r < shifted.mantissa + 1 := by
  obtain ⟨mantissa, roundBit, stickyBit⟩ := shifted
  cases roundBit <;> cases stickyBit <;> simp only [Measures] at h ⊢ <;>
    constructor <;> linarith

/-- Rounding by the residual bits is rounding the number. -/
theorem Measures.roundedMantissa : shifted.roundedMantissa = roundHalfEven r := by
  obtain ⟨hle, hlt⟩ := h.bounds
  rw [roundHalfEven_eq hle hlt]
  obtain ⟨mantissa, roundBit, stickyBit⟩ := shifted
  cases roundBit <;> cases stickyBit <;>
    simp only [Measures, ExtendedMantissa.roundedMantissa, ExtendedMantissa.accuracy,
      Accuracy.roundToNearestEven] at h ⊢
  · rw [if_neg]
    rintro (hhalf | ⟨hhalf, _⟩) <;> linarith
  · rw [if_neg]
    rintro (hhalf | ⟨hhalf, _⟩) <;> linarith
  · simp only [h, lt_irrefl, false_or, true_and]
    split <;> omega
  · rw [if_pos (.inl h.1)]

theorem Measures.shiftRightOne : Measures shifted.shiftRightOne (r / 2) := by
  obtain ⟨mantissa, roundBit, stickyBit⟩ := shifted
  rcases Nat.even_or_odd' mantissa with ⟨half, rfl | rfl⟩
  · have hshift : ExtendedMantissa.shiftRightOne ⟨2 * half, roundBit, stickyBit⟩ =
        ⟨half, false, roundBit || stickyBit⟩ := by
      simp [ExtendedMantissa.shiftRightOne]
    rw [hshift]
    cases roundBit <;> cases stickyBit <;>
      simp only [Measures, Bool.or_false, Bool.or_true, Nat.cast_mul, Nat.cast_ofNat] at h ⊢
    · linarith only [h]
    all_goals constructor <;> linarith
  · have hshift : ExtendedMantissa.shiftRightOne ⟨2 * half + 1, roundBit, stickyBit⟩ =
        ⟨half, true, roundBit || stickyBit⟩ := by
      simp [ExtendedMantissa.shiftRightOne]
      omega
    rw [hshift]
    cases roundBit <;> cases stickyBit <;>
      simp only [Measures, Bool.or_false, Bool.or_true, Nat.cast_add, Nat.cast_mul,
        Nat.cast_ofNat, Nat.cast_one] at h ⊢
    · linarith only [h]
    all_goals constructor <;> linarith

theorem Measures.shiftRight (count : Nat) : Measures (shifted >>> count) (r / 2 ^ count) := by
  show Measures (count.repeat ExtendedMantissa.shiftRightOne shifted) _
  induction count with
  | zero => simpa [Nat.repeat] using h
  | succ count ih =>
      rw [Nat.repeat, pow_succ, ← div_div]
      exact ih.shiftRightOne

end Measures

/-! ### Packed patterns -/

def signOf (negative : Bool) : Sign := if negative then .negative else .positive

/-- The double that an unpacked number is packed into. -/
def packed (number : UnpackedFloat) : Float := .ofModel (.pack number)

theorem eq_ofMagnitude {x : Float} {negative : Bool} {size : Nat} (hsize : size < 2 ^ 63)
    (hbits : x.toBits.toNat = (if negative then 2 ^ 63 else 0) + size) :
    x = ofMagnitude negative size := by
  have hmagnitude : magnitude x = size := by
    rw [magnitude, hbits]
    split <;> omega
  have hnegative : isNegative x = negative := by
    rw [isNegative, hbits]
    cases negative
    · exact decide_eq_false (by simpa using hsize)
    · exact decide_eq_true (by simp)
  rw [← hmagnitude, ← hnegative, ofMagnitude_magnitude]

theorem toNat_packComponents (negative : Bool) (exponent : BitVec 11) (mantissa : BitVec 52) :
    (packComponents .binary64 (signOf negative) exponent mantissa).toNat =
      (if negative then 2 ^ 63 else 0) + (exponent.toNat * 2 ^ 52 + mantissa.toNat) := by
  have hexponent : exponent.toNat < 2 ^ 11 := exponent.isLt
  have hmantissa : mantissa.toNat < 2 ^ 52 := mantissa.isLt
  have happend : (packComponents .binary64 (signOf negative) exponent mantissa).toNat =
      ((signOf negative).toBitVec.toNat <<< 11 ||| exponent.toNat) <<< 52 ||| mantissa.toNat := by
    rw [packComponents]
    exact (BitVec.toNat_append _ _).trans (by rw [BitVec.toNat_append])
  rw [happend, ← Nat.shiftLeft_add_eq_or_of_lt hexponent,
    ← Nat.shiftLeft_add_eq_or_of_lt hmantissa, Nat.shiftLeft_eq, Nat.shiftLeft_eq]
  cases negative
  · show (0 * 2 ^ 11 + exponent.toNat) * 2 ^ 52 + mantissa.toNat = 0 + _
    omega
  · show (1 * 2 ^ 11 + exponent.toNat) * 2 ^ 52 + mantissa.toNat = 2 ^ 63 + _
    omega

theorem packed_of_components {number : UnpackedFloat} {negative : Bool} {exponent : BitVec 11}
    {mantissa : BitVec 52}
    (h : number.pack .binary64 = packComponents .binary64 (signOf negative) exponent mantissa) :
    packed number = ofMagnitude negative (exponent.toNat * 2 ^ 52 + mantissa.toNat) := by
  have hexponent : exponent.toNat < 2 ^ 11 := exponent.isLt
  have hmantissa : mantissa.toNat < 2 ^ 52 := mantissa.isLt
  apply eq_ofMagnitude (by omega)
  rw [← toNat_packComponents, ← h]
  rfl

theorem packed_zero (negative : Bool) : packed (.zero (signOf negative)) = ofMagnitude negative 0 :=
  @packed_of_components (.zero (signOf negative)) negative 0#11 0#52 rfl

theorem packed_of_infinity {number : UnpackedFloat} {negative : Bool}
    (h : number.pack .binary64 = packedInfinity .binary64 (signOf negative)) :
    packed number = ofMagnitude negative infiniteMagnitude :=
  @packed_of_components number negative (-1#11) 0#52 h

section Finite

variable (negative : Bool) {mantissa : Nat} {exponent : Int} (hpos : 0 < mantissa)

theorem pack_finite : UnpackedFloat.pack .binary64 (.finite (signOf negative) mantissa exponent hpos) =
    if 2 ^ 11 ≤ (exponent + 1075).toNat + 1 then packedInfinity .binary64 (signOf negative)
    else if mantissa.log2 + 1 = 53 then
      packComponents .binary64 (signOf negative) (BitVec.ofNat 11 (exponent + 1075).toNat)
        (BitVec.ofNat 52 mantissa)
    else packComponents .binary64 (signOf negative) 0#11 (BitVec.ofNat 52 mantissa) := by
  have hbias : (exponent + (Format.binary64.exponentBias : Nat) +
      (Format.binary64.mantissaBitsWithoutImplicit : Nat)).toNat = (exponent + 1075).toNat := by
    show (exponent + (1023 : Nat) + (52 : Nat)).toNat = _
    omega
  rw [UnpackedFloat.pack]
  simp only [hbias]
  rfl

/-- Packing counts the units from the least power of two on and stops at infinity. -/
theorem packed_finite (hleast : -1074 ≤ exponent) (hshort : mantissa < 2 ^ 53)
    (hleading : -1074 < exponent → 2 ^ 52 ≤ mantissa) :
    packed (.finite (signOf negative) mantissa exponent hpos) =
      ofMagnitude negative
        (min infiniteMagnitude ((exponent + 1074).toNat * 2 ^ 52 + mantissa)) := by
  have hinfinite : infiniteMagnitude = 2047 * 2 ^ 52 := rfl
  have hpack := @pack_finite negative mantissa exponent hpos
  rcases le_or_gt 972 exponent with hlarge | hbelow
  · have := hleading (by omega)
    rw [if_pos (by omega)] at hpack
    rw [packed_of_infinity hpack, min_eq_left (by omega)]
  rw [if_neg (by omega)] at hpack
  rw [min_eq_right (by omega)]
  rcases le_or_gt (2 ^ 52) mantissa with hnormal | hsmall
  · have hlog : mantissa.log2 + 1 = 53 := by
      have hlow := (Nat.le_log2 hpos.ne').2 hnormal
      have hhigh := (Nat.log2_lt hpos.ne').2 hshort
      omega
    have hsize : (BitVec.ofNat 11 (exponent + 1075).toNat).toNat * 2 ^ 52 +
        (BitVec.ofNat 52 mantissa).toNat = (exponent + 1074).toNat * 2 ^ 52 + mantissa := by
      rw [BitVec.toNat_ofNat, BitVec.toNat_ofNat]
      omega
    rw [if_pos hlog] at hpack
    rw [packed_of_components hpack, hsize]
  · have hlog : mantissa.log2 + 1 ≠ 53 := by
      have hhigh := (Nat.log2_lt hpos.ne').2 hsmall
      omega
    have hsize : (0#11).toNat * 2 ^ 52 + (BitVec.ofNat 52 mantissa).toNat =
        (exponent + 1074).toNat * 2 ^ 52 + mantissa := by
      rw [BitVec.toNat_ofNat, BitVec.toNat_ofNat]
      omega
    rw [if_neg hlog] at hpack
    rw [packed_of_components hpack, hsize]

end Finite

/-! ### Rounding -/

theorem shiftRight_zero (shifted : ExtendedMantissa) : shifted >>> 0 = shifted := rfl

/-- A mantissa that fits is not shifted. -/
theorem shiftToTargetExponent_of_lt {mantissa : Nat} {exponent : Int} (hleast : -1074 ≤ exponent)
    (hshort : mantissa < 2 ^ 53) :
    shiftToTargetExponent .binary64 mantissa exponent .exact =
      (⟨mantissa, false, false⟩, exponent) := by
  have hlog : mantissa.log2 ≤ 52 := by
    by_cases hzero : mantissa = 0
    · rw [hzero, Nat.log2_zero]
      omega
    · have := (Nat.log2_lt hzero).2 hshort
      omega
  have hamount : (Format.binary64.targetExponent (totalExponent mantissa exponent) -
      exponent).toNat = 0 := by
    show (max ((mantissa.log2 : Int) + 1 + exponent - (53 : Nat)) (-1074) - exponent).toNat = 0
    omega
  rw [shiftToTargetExponent, shiftToExponent, hamount]
  simp only [shiftRight_zero, ExtendedMantissa.ofMantissaAndAccuracy, Nat.cast_zero, add_zero]

/-- A mantissa that rounding carried to one more bit is a power of two and loses its last bit. -/
theorem shiftToTargetExponent_carry {exponent : Int} (hleast : -1074 ≤ exponent) :
    shiftToTargetExponent .binary64 (2 ^ 53) exponent .exact =
      (⟨2 ^ 52, false, false⟩, exponent + 1) := by
  have hamount : (Format.binary64.targetExponent (totalExponent (2 ^ 53) exponent) -
      exponent).toNat = 1 := by
    show (max ((Nat.log2 (2 ^ 53) : Int) + 1 + exponent - (53 : Nat)) (-1074) - exponent).toNat = 1
    rw [Nat.log2_two_pow]
    omega
  rw [shiftToTargetExponent, shiftToExponent, hamount]
  rfl

/-- Rounded units of a power of two are packed with at most one more shift. -/
theorem packed_units (negative : Bool) {units : Nat} {power : Int} (hleast : -1074 ≤ power)
    (hle : units ≤ 2 ^ 53) (hnormal : -1074 < power → 2 ^ 52 ≤ units) :
    packed (
      let (shifted, exponent) := shiftToTargetExponent .binary64 units power .exact
      if h : shifted.mantissa = 0 then .zero (signOf negative)
      else .finite (signOf negative) shifted.mantissa exponent (Nat.pos_of_ne_zero h)) =
      ofMagnitude negative (min infiniteMagnitude ((power + 1074).toNat * 2 ^ 52 + units)) := by
  rcases hle.lt_or_eq with hlt | rfl
  · rw [shiftToTargetExponent_of_lt hleast hlt]
    dsimp only
    split
    · rename_i hzero
      rw [packed_zero, hzero, show (power + 1074).toNat * 2 ^ 52 + 0 = 0 by omega, Nat.min_zero]
    · rename_i hzero
      exact packed_finite negative (Nat.pos_of_ne_zero hzero) hleast hlt hnormal
  · rw [shiftToTargetExponent_carry hleast]
    dsimp only
    rw [dif_neg (by decide), packed_finite negative (by decide) (by omega) (by decide) (by simp),
      show (power + 1 + 1074).toNat * 2 ^ 52 + 2 ^ 52 = (power + 1074).toNat * 2 ^ 52 + 2 ^ 53 by
        omega]

section Round

variable {r : Rat} {mantissa : Nat} {exponent : Int} {accuracy : Accuracy}

/-- The exponent of the leading bit is known from the whole part. -/
theorem floorLog2_of_bounds (hpos : 0 < mantissa) (hle : (mantissa : Rat) ≤ r * 2 ^ (-exponent))
    (hlt : r * 2 ^ (-exponent) < mantissa + 1) : floorLog2 r = mantissa.log2 + exponent := by
  have hscaled : r * 2 ^ (-exponent) * 2 ^ exponent = r := by
    rw [mul_assoc, ← zpow_add₀ two_ne_zero, neg_add_cancel, zpow_zero, mul_one]
  have hpower : (0 : Rat) < 2 ^ exponent := by positivity
  apply floorLog2_eq
  · rw [zpow_add₀ two_ne_zero, zpow_natCast, ← hscaled]
    apply mul_le_mul_of_nonneg_right _ hpower.le
    exact le_trans (by exact_mod_cast Nat.log2_self_le hpos.ne') hle
  · have hnext : ((mantissa : Rat) + 1) ≤ 2 ^ (mantissa.log2 + 1) := by
      exact_mod_cast Nat.lt_log2_self
    rw [show (mantissa.log2 : Int) + exponent + 1 = ((mantissa.log2 + 1 : Nat) : Int) + exponent by
      omega, zpow_add₀ two_ne_zero, zpow_natCast, ← hscaled]
    exact mul_lt_mul_of_pos_right (hlt.trans_le hnext) hpower

/-- The power of two to round to is known from the whole part, if bits below it are still there. -/
theorem targetExponent_eq (hr : 0 < r) (hle : (mantissa : Rat) ≤ r * 2 ^ (-exponent))
    (hlt : r * 2 ^ (-exponent) < mantissa + 1)
    (hexponent : exponent ≤ max (floorLog2 r - 52) (-1074)) :
    Format.binary64.targetExponent (totalExponent mantissa exponent) =
      max (floorLog2 r - 52) (-1074) := by
  show max ((mantissa.log2 : Int) + 1 + exponent - (53 : Nat)) (-1074) = _
  rcases Nat.eq_zero_or_pos mantissa with rfl | hpos
  · have hbelow : r < 2 ^ exponent := by
      rw [Nat.cast_zero, zero_add, zpow_neg, mul_inv_lt_iff₀ (by positivity), one_mul] at hlt
      exact hlt
    have := (floorLog2_lt hr).2 hbelow
    rw [Nat.log2_zero]
    omega
  · have := floorLog2_of_bounds hpos hle hlt
    omega

/-- Rounding a mantissa that measures a number gives the double nearest to the number. -/
theorem packed_roundWithAccuracy (negative : Bool) (hr : 0 < r)
    (hmeasures : Measures (.ofMantissaAndAccuracy mantissa accuracy) (r * 2 ^ (-exponent)))
    (hexponent : exponent ≤ max (floorLog2 r - 52) (-1074)) :
    packed (roundWithAccuracy .binary64 (signOf negative) mantissa exponent accuracy) =
      nearest negative r := by
  have hmantissa : (ExtendedMantissa.ofMantissaAndAccuracy mantissa accuracy).mantissa = mantissa := by
    cases accuracy with
    | exact => rfl
    | inexact side => cases side <;> rfl
  have hbounds := hmeasures.bounds
  rw [hmantissa] at hbounds
  have htarget := targetExponent_eq hr hbounds.1 hbounds.2 hexponent
  generalize hpower : max (floorLog2 r - 52) (-1074) = power at hexponent htarget
  have hshift : exponent + ((power - exponent).toNat : Int) = power := by omega
  -- After the first shift the mantissa counts units of the power of two to round to.
  have hunits : (ExtendedMantissa.ofMantissaAndAccuracy mantissa accuracy >>>
      (power - exponent).toNat).roundedMantissa = roundHalfEven (r * 2 ^ (-power)) := by
    have hscaled : r * (2 : Rat) ^ (-exponent) / 2 ^ (power - exponent).toNat =
        r * 2 ^ (-power) := by
      rw [mul_div_assoc, ← zpow_natCast, ← zpow_sub₀ two_ne_zero,
        show -exponent - ((power - exponent).toNat : Int) = -power by omega]
    rw [← hscaled]
    exact (hmeasures.shiftRight _).roundedMantissa
  have hle : roundHalfEven (r * 2 ^ (-power)) ≤ 2 ^ 53 := units_le hr (by omega)
  have hnormal : -1074 < power → 2 ^ 52 ≤ roundHalfEven (r * 2 ^ (-power)) := by
    intro hlt
    rw [show power = floorLog2 r - 52 by omega]
    exact le_units hr
  rw [nearest, nearestMagnitude_eq hr.ne' hpower, roundWithAccuracy, shiftToTargetExponent,
    shiftToExponent, htarget]
  simp only [hshift, hunits]
  exact packed_units negative (by omega) hle hnormal

end Round

end BenchReport.Binary64

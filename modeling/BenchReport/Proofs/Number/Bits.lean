import BenchReport.Number.Binary64
import Mathlib

/-!
# The bits of a double

A double is known by its sign and its magnitude: putting them together again gives back the double, and every sign and magnitude up to that of infinity belong to a double. Finite doubles are those below the magnitude of infinity. A double that is not a number has only one pattern, so it too is told by its bits.
-/

namespace BenchReport.Binary64

open Float.Model Float.Model.UnpackedFloat

/-! ### The parts of a pattern -/

theorem toNat_unpackMantissa (bits : BitVec Format.binary64.numBits) :
    (unpackMantissa bits).toNat = bits.toNat % 2 ^ 52 := by
  simp [unpackMantissa, BitVec.extractLsb]

theorem toNat_unpackExponent (bits : BitVec Format.binary64.numBits) :
    (unpackExponent bits).toNat = bits.toNat / 2 ^ 52 % 2 ^ 11 := by
  simp [unpackExponent, BitVec.extractLsb, Nat.shiftRight_eq_div_pow]

section Fields

variable {bits : BitVec Format.binary64.numBits}

theorem unpackExponent_eq_ones :
    unpackExponent bits = -1#11 ↔ bits.toNat / 2 ^ 52 % 2 ^ 11 = 2047 := by
  rw [← BitVec.toNat_inj, toNat_unpackExponent]
  rfl

theorem unpackExponent_eq_zero :
    unpackExponent bits = 0#11 ↔ bits.toNat / 2 ^ 52 % 2 ^ 11 = 0 := by
  rw [← BitVec.toNat_inj, toNat_unpackExponent]
  rfl

theorem unpackMantissa_eq_zero : unpackMantissa bits = 0#52 ↔ bits.toNat % 2 ^ 52 = 0 := by
  rw [← BitVec.toNat_inj, toNat_unpackMantissa]
  rfl

end Fields

/-! ### Doubles and their bits -/

/-- A pattern that is not a number is told by its exponent and its mantissa; the others are kept as they are. -/
theorem toBits_ofBits {bits : UInt64} (h : bits.toNat % 2 ^ 63 ≤ infiniteMagnitude) :
    (Float.ofBits bits).toBits = bits := by
  have hvalid : Format.Valid .binary64 bits.toBitVec := by
    refine ⟨fun hexponent hmantissa => absurd (unpackMantissa_eq_zero.2 ?_) hmantissa⟩
    have hones : bits.toNat / 2 ^ 52 % 2 ^ 11 = 2047 := unpackExponent_eq_ones.1 hexponent
    rw [infiniteMagnitude] at h
    change bits.toNat % 2 ^ 52 = 0
    omega
  exact congrArg UInt64.ofBitVec (pack_unpack_of_valid hvalid)

theorem ofMagnitude_magnitude (x : Float) : ofMagnitude (isNegative x) (magnitude x) = x := by
  have hlt : x.toBits.toNat < 2 ^ 64 := x.toBits.toNat_lt
  rw [ofMagnitude, isNegative, magnitude]
  have hbits : (if decide (2 ^ 63 ≤ x.toBits.toNat) = true then
      2 ^ 63 + x.toBits.toNat % 2 ^ 63 else x.toBits.toNat % 2 ^ 63) = x.toBits.toNat := by
    split
    · rename_i hnegative
      rw [decide_eq_true_eq] at hnegative
      omega
    · rename_i hpositive
      rw [decide_eq_true_eq] at hpositive
      omega
  rw [hbits, UInt64.ofNat_toNat, Float.ofBits_toBits]

theorem magnitude_ofMagnitude (negative : Bool) {size : Nat} (h : size ≤ infiniteMagnitude) :
    magnitude (ofMagnitude negative size) = size := by
  have hinfinite : infiniteMagnitude < 2 ^ 63 := by decide
  have hbits : (UInt64.ofNat (if negative then 2 ^ 63 + size else size)).toNat % 2 ^ 63 = size := by
    rw [UInt64.toNat_ofNat']
    split <;> omega
  rw [magnitude, ofMagnitude, toBits_ofBits (by rw [hbits]; exact h), hbits]

theorem isNegative_ofMagnitude (negative : Bool) {size : Nat} (h : size ≤ infiniteMagnitude) :
    isNegative (ofMagnitude negative size) = negative := by
  have hinfinite : infiniteMagnitude < 2 ^ 63 := by decide
  have hbits : (UInt64.ofNat (if negative then 2 ^ 63 + size else size)).toNat =
      if negative then 2 ^ 63 + size else size := by
    rw [UInt64.toNat_ofNat']
    split <;> omega
  rw [isNegative, ofMagnitude, toBits_ofBits (by rw [hbits]; split <;> omega), hbits]
  cases negative
  · exact decide_eq_false (by simpa using by omega)
  · exact decide_eq_true (by simp)

theorem isFinite_unpack (bits : BitVec Format.binary64.numBits) :
    (UnpackedFloat.unpack .binary64 bits).isFinite = true ↔
      unpackExponent bits ≠ -1#11 := by
  fun_cases UnpackedFloat.unpack .binary64 bits with
  | case1 _ _ _ _ hexponent => exact ⟨(fun h => nomatch h), fun h => absurd hexponent h⟩
  | case2 _ _ hexponent => exact ⟨(fun h => nomatch h), fun h => absurd hexponent h⟩
  | case3 _ _ _ _ hexponent => exact ⟨fun _ => hexponent, fun _ => rfl⟩
  | case4 _ _ _ _ _ hexponent => exact ⟨fun _ => hexponent, fun _ => rfl⟩
  | case5 _ _ _ _ _ hexponent => exact ⟨fun _ => hexponent, fun _ => rfl⟩

/-- The finite doubles are those below infinity. -/
theorem isFinite_iff (x : Float) : x.isFinite = true ↔ magnitude x < infiniteMagnitude := by
  have hexponent : @unpackExponent .binary64 x.toBits.toBitVec = -1#11 ↔
      x.toBits.toNat / 2 ^ 52 % 2 ^ 11 = 2047 := unpackExponent_eq_ones
  refine (isFinite_unpack x.toBits.toBitVec).trans ?_
  rw [ne_eq, hexponent, magnitude, infiniteMagnitude]
  omega

end BenchReport.Binary64

import BenchReport.Proofs.Number.Powers
import BenchReport.TimeUnit

/-!
# Rounding to decimal places

Rounding to places scales a number up by a power of ten, rounds it to a whole number and scales it down again, in doubles. Each of the three steps can leave the range, though the rounded number itself lies next to the one it came from. With a power above the 308th there is no finite result at all, not even for zero. With a smaller one, the only step that can leave the range is the scaling that makes the number larger: the first one, or, where the count of places has wrapped to a negative exponent, the last.
-/

namespace BenchReport

open Binary64

/-! ### Whole numbers -/

/-- Adding a half and dropping the fraction does not leave the range. -/
theorem roundUp_lt_rangeEnd {size : Nat} (h : size < infiniteMagnitude) :
    (((value size + 1 / 2).floor.toNat : Nat) : Rat) < rangeEnd := by
  have hnonneg := value_nonneg size
  have hfloor : 0 ≤ (value size + 1 / 2).floor := by
    rw [Rat.le_floor_iff, Int.cast_zero]
    positivity
  have hroom : (1 / 2 : Rat) < 2 ^ (970 : Int) :=
    one_half_lt_one.trans_le (one_le_zpow₀ one_le_two (by decide))
  have hdouble : (2 : Rat) ^ (971 : Int) = 2 ^ (970 : Int) + 2 ^ (970 : Int) := by
    rw [show (971 : Int) = 970 + 1 by rfl, zpow_add₀ two_ne_zero, zpow_one, mul_two]
  calc (((value size + 1 / 2).floor.toNat : Nat) : Rat) = ((value size + 1 / 2).floor : Rat) := by
        rw [← Int.cast_natCast, Int.toNat_of_nonneg hfloor]
    _ ≤ value size + 1 / 2 := Rat.floor_le _
    _ < 2 ^ (1024 : Int) - 2 ^ (971 : Int) + 2 ^ (970 : Int) := add_lt_add_of_le_of_lt (value_le_of_lt h) hroom
    _ = rangeEnd := by
      rw [hdouble, rangeEnd]
      ring

theorem isFinite_roundHalfAway (x : Float) : (roundHalfAway x).isFinite = x.isFinite := by
  rw [roundHalfAway, roundMagnitude]
  split
  · rename_i hfinite
    rw [(isFinite_iff x).2 hfinite, isFinite_iff, nearest,
      magnitude_ofMagnitude _ (nearestMagnitude_le_infinite _)]
    exact nearestMagnitude_lt_of_lt (Nat.cast_nonneg _) (roundUp_lt_rangeEnd hfinite)
  · rfl

/-! ### Places -/

/-- The power of ten that a count of places scales by. -/
def placesFactor (places : UInt32) : Float := powTen (placesExponent places)

/-- A number in whole units of its last place. -/
def wholeUnits (places : UInt32) (x : Float) : Float := roundHalfAway (x * placesFactor places)

theorem placesFactor_finite_iff {places : UInt32} :
    (magnitude (placesFactor places) < infiniteMagnitude ∧ magnitude (placesFactor places) ≠ 0) ↔
      (placesExponent places).natAbs ≤ 308 := powTen_finite_iff

theorem roundPlaces_eq (x : Float) (places : UInt32) :
    roundPlaces x places = wholeUnits places x / placesFactor places := rfl

/-- That rounding to places stays in the range: the power of ten does, and so does the step that makes the number larger. -/
def Roundable (places : UInt32) (x : Float) : Prop :=
  (placesExponent places).natAbs ≤ 308 ∧
    if 0 ≤ placesExponent places then
      value (magnitude x) * value (magnitude (placesFactor places)) < rangeEnd
    else
      value (magnitude (wholeUnits places x)) / value (magnitude (placesFactor places)) < rangeEnd

instance (places : UInt32) (x : Float) : Decidable (Roundable places x) :=
  @instDecidableAnd _ _ _ inferInstance

section Steps

variable {places : UInt32} {x : Float}

theorem placesFactor_of_isFinite (h : (roundPlaces x places).isFinite = true) :
    (placesExponent places).natAbs ≤ 308 := by
  obtain ⟨hwhole, hzero⟩ := isFinite_of_div h
  rw [isFinite_roundHalfAway] at hwhole
  exact placesFactor_finite_iff.1 ⟨(isFinite_iff _).1 (isFinite_of_mul hwhole).2, hzero⟩

section Scaled

variable (hx : x.isFinite = true) (hpower : (placesExponent places).natAbs ≤ 308)
include hx hpower

theorem isFinite_wholeUnits_iff :
    (wholeUnits places x).isFinite = true ↔
      value (magnitude x) * value (magnitude (placesFactor places)) < rangeEnd := by
  have hfactor := (placesFactor_finite_iff.2 hpower).1
  have hnonneg := mul_nonneg (value_nonneg (magnitude x))
    (value_nonneg (magnitude (placesFactor places)))
  rw [wholeUnits, isFinite_roundHalfAway, mul_eq ((isFinite_iff x).1 hx) hfactor, isFinite_iff,
    nearest, magnitude_ofMagnitude _ (nearestMagnitude_le_infinite _)]
  exact nearestMagnitude_lt_iff hnonneg

/-- With a power of ten that is in the range, the two scalings decide. -/
theorem isFinite_roundPlaces_of_power :
    (roundPlaces x places).isFinite = true ↔
      value (magnitude x) * value (magnitude (placesFactor places)) < rangeEnd ∧
        value (magnitude (wholeUnits places x)) / value (magnitude (placesFactor places)) < rangeEnd := by
  obtain ⟨hfactor, hzero⟩ := placesFactor_finite_iff.2 hpower
  have hnonneg := div_nonneg (value_nonneg (magnitude (wholeUnits places x)))
    (value_nonneg (magnitude (placesFactor places)))
  rw [← isFinite_wholeUnits_iff hx hpower, roundPlaces_eq]
  constructor
  · intro h
    have hwhole := (isFinite_of_div h).1
    rw [div_eq ((isFinite_iff _).1 hwhole) hfactor hzero, isFinite_iff, nearest,
      magnitude_ofMagnitude _ (nearestMagnitude_le_infinite _)] at h
    exact ⟨hwhole, (nearestMagnitude_lt_iff hnonneg).1 h⟩
  · rintro ⟨hwhole, h⟩
    rw [div_eq ((isFinite_iff _).1 hwhole) hfactor hzero, isFinite_iff, nearest,
      magnitude_ofMagnitude _ (nearestMagnitude_le_infinite _)]
    exact (nearestMagnitude_lt_iff hnonneg).2 h

end Scaled

/-- A finite number is rounded to a finite number exactly if no step leaves the range. -/
theorem isFinite_roundPlaces_iff (hx : x.isFinite = true) :
    (roundPlaces x places).isFinite = true ↔ Roundable places x := by
  have hvalue := value_lt_rangeEnd ((isFinite_iff x).1 hx)
  rw [Roundable]
  constructor
  · intro h
    have hpower := placesFactor_of_isFinite h
    obtain ⟨hup, hdown⟩ := (isFinite_roundPlaces_of_power hx hpower).1 h
    refine ⟨hpower, ?_⟩
    split
    · exact hup
    · exact hdown
  · rintro ⟨hpower, hstep⟩
    rw [isFinite_roundPlaces_of_power hx hpower]
    by_cases hnonneg : 0 ≤ placesExponent places
    · rw [if_pos hnonneg] at hstep
      have hwhole := (isFinite_wholeUnits_iff hx hpower).2 hstep
      refine ⟨hstep, ?_⟩
      calc value (magnitude (wholeUnits places x)) / value (magnitude (placesFactor places))
          ≤ value (magnitude (wholeUnits places x)) :=
            div_le_self (value_nonneg _) (atLeastOne_powTen hnonneg).one_le
        _ < rangeEnd := value_lt_rangeEnd ((isFinite_iff _).1 hwhole)
    · rw [if_neg hnonneg] at hstep
      refine ⟨?_, hstep⟩
      calc value (magnitude x) * value (magnitude (placesFactor places))
          ≤ value (magnitude x) :=
            mul_le_of_le_one_right (value_nonneg _) (value_powTen_le_one (not_le.1 hnonneg))
        _ < rangeEnd := hvalue

end Steps

end BenchReport

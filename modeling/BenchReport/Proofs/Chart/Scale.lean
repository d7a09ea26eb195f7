import BenchReport.Proofs.Chart.Faithful
import BenchReport.Settings.Preset

/-!
# The scale of a chart

The unit of a chart and the kind of its axis are read off the greatest and the least of its values. Which of several equal values these are depends on the order of the values, and so does the sign of a zero among them; but they are told by the bounds that the values keep, so lists with the same numbers have equal extrema. Equal numbers are the same double unless they are zeros, and values of which the greatest is a zero are not wide, whatever its sign.
-/

namespace BenchReport

open Binary64

/-! ### The numbers of a list -/

/-- Lists with the same numbers: a number equals some value of the one exactly if it equals some value of the other. Both zeros are one number; what is not a number equals nothing, so it does not count. -/
def SameNumbers (left right : List Float) : Prop :=
  ∀ number : Float, left.contains number = right.contains number

namespace SameNumbers

variable {left right : List Float}

theorem symm (h : SameNumbers left right) : SameNumbers right left := fun number => (h number).symm

/-- Order, repetitions and what is not a number make no difference. -/
theorem of_mem (h : ∀ value, value.isNaN = false → (value ∈ left ↔ value ∈ right)) :
    SameNumbers left right := by
  intro number
  rw [Bool.eq_iff_iff, List.contains_iff_exists_mem_beq, List.contains_iff_exists_mem_beq]
  constructor
  · rintro ⟨value, hvalue, hequal⟩
    exact ⟨value, (h value (beq_iff.1 hequal).2.1).1 hvalue, hequal⟩
  · rintro ⟨value, hvalue, hequal⟩
    exact ⟨value, (h value (beq_iff.1 hequal).2.1).2 hvalue, hequal⟩

variable (h : SameNumbers left right)
include h

theorem exists_equal {value : Float} (hvalue : value ∈ left) (hnumber : value ≤ value) :
    ∃ other ∈ right, value ≤ other ∧ other ≤ value := by
  have hleft : left.contains value = true :=
    List.contains_iff_exists_mem_beq.2 ⟨value, hvalue, beq_iff_le.2 ⟨hnumber, hnumber⟩⟩
  rw [h value] at hleft
  obtain ⟨other, hother, hequal⟩ := List.contains_iff_exists_mem_beq.1 hleft
  exact ⟨other, hother, beq_iff_le.1 hequal⟩

theorem exists_above {bound : Float} (hbound : ∃ value ∈ left, bound ≤ value) :
    ∃ value ∈ right, bound ≤ value := by
  obtain ⟨value, hvalue, hle⟩ := hbound
  obtain ⟨other, hother, hup, _⟩ := h.exists_equal hvalue (le_refl_iff.2 (le_iff.1 hle).2.1)
  exact ⟨other, hother, Binary64.le_trans hle hup⟩

theorem exists_below {bound : Float} (hbound : ∃ value ∈ left, value ≤ bound) :
    ∃ value ∈ right, value ≤ bound := by
  obtain ⟨value, hvalue, hle⟩ := hbound
  obtain ⟨other, hother, _, hdown⟩ := h.exists_equal hvalue (le_refl_iff.2 (le_iff.1 hle).1)
  exact ⟨other, hother, Binary64.le_trans hdown hle⟩

theorem greatest_le (hnumber : greatest left ≤ greatest left) : greatest left ≤ greatest right :=
  le_greatest_iff.2 (h.exists_above (le_greatest_iff.1 hnumber))

theorem least_le (hnumber : least left ≤ least left) : least right ≤ least left :=
  least_le_iff.2 (h.exists_below (least_le_iff.1 hnumber))

theorem ofValues_eq (unit : TimeUnit) :
    DisplayUnit.ofValues unit left = DisplayUnit.ofValues unit right :=
  DisplayUnit.ofValues_congr unit fun _ _ => ⟨h.exists_above, h.symm.exists_above⟩

end SameNumbers

/-! ### The largest number -/

/-- A largest number of a list. -/
structure IsLargest (values : List Float) (largest : Float) : Prop where
  mem : largest ∈ values
  number : largest.isNaN = false
  le : ∀ value ∈ values, value.isNaN = false → value ≤ largest

theorem le_greatest_of_mem {values : List Float} {value : Float} (hvalue : value ∈ values)
    (hnumber : value.isNaN = false) : value ≤ greatest values :=
  le_greatest_iff.2 ⟨value, hvalue, le_refl_iff.2 hnumber⟩

theorem exists_isLargest_iff {values : List Float} :
    (∃ largest, IsLargest values largest) ↔ ∃ value ∈ values, value.isNaN = false := by
  constructor
  · rintro ⟨largest, hlargest⟩
    exact ⟨largest, hlargest.mem, hlargest.number⟩
  · rintro ⟨value, hvalue, hnumber⟩
    have hgreatest := (le_iff.1 (le_greatest_of_mem hvalue hnumber)).2.1
    obtain ⟨largest, hmem, hle⟩ := le_greatest_iff.1 (le_refl_iff.2 hgreatest)
    exact ⟨largest, hmem, (le_iff.1 hle).2.1,
      fun other hother hnumber => Binary64.le_trans (le_greatest_of_mem hother hnumber) hle⟩

theorem IsLargest.ofValues_eq {values : List Float} {largest : Float} (h : IsLargest values largest) :
    DisplayUnit.ofValues .nanoseconds values = .ofNanos largest := by
  rw [DisplayUnit.ofValues_nanoseconds]
  refine DisplayUnit.ofNanos_congr fun bound _ => ?_
  rw [le_greatest_iff]
  constructor
  · rintro ⟨value, hvalue, hle⟩
    exact Binary64.le_trans hle (h.le value hvalue (le_iff.1 hle).2.1)
  · intro hle
    exact ⟨largest, h.mem, hle⟩

theorem isNaN_greatest {values : List Float} (h : ∀ value ∈ values, value.isNaN = true) :
    (greatest values).isNaN = true := by
  by_contra hnumber
  rw [Bool.not_eq_true, ← le_refl_iff] at hnumber
  obtain ⟨value, hvalue, hle⟩ := le_greatest_iff.1 hnumber
  exact not_le_of_isNaN (h value hvalue) _ hle

theorem DisplayUnit.ofValues_of_isNaN {values : List Float} (h : ∀ value ∈ values, value.isNaN = true) :
    ofValues .nanoseconds values = nanos := by
  rw [ofValues_nanoseconds, ofNanos_of_isNaN (isNaN_greatest h)]

/-! ### Wide values -/

theorem least_le_greatest {values : List Float} (hnumber : (greatest values).isNaN = false) :
    least values ≤ greatest values := by
  obtain ⟨value, hvalue, hle⟩ := le_greatest_iff.1 (le_refl_iff.2 hnumber)
  have hself : value ≤ value := le_refl_iff.2 (le_iff.1 hle).2.1
  exact Binary64.le_trans (least_le_iff.2 ⟨value, hvalue, hself⟩) (le_greatest_iff.2 ⟨value, hvalue, hself⟩)

namespace Chart

theorem floor_of_lt {x : Float} (h : x < 1e-9) : greater x 1e-9 = 1e-9 := by
  obtain ⟨hx, hfloor, _⟩ := lt_iff.1 h
  rw [greater, if_neg (ne_true_of_eq_false hx), if_neg (ne_true_of_eq_false hfloor), if_pos h]

theorem floor_of_not_lt {x : Float} (hnumber : x.isNaN = false) (h : ¬x < 1e-9) :
    greater x 1e-9 = x := by
  rw [greater, if_neg (ne_true_of_eq_false hnumber), if_neg (by decide), if_neg h]

/-- Equal numbers have one floor: at the floor or above there are no zeros. -/
theorem floor_eq {x y : Float} (hup : x ≤ y) (hdown : y ≤ x) : greater x 1e-9 = greater y 1e-9 := by
  by_cases hlt : x < 1e-9
  · rw [floor_of_lt hlt, floor_of_lt (lt_of_le_of_lt hdown hlt)]
  · have hnot : ¬y < 1e-9 := fun h => hlt (lt_of_le_of_lt hup h)
    obtain ⟨hx, hy, hplace⟩ := beq_iff.1 (beq_iff_le.2 ⟨hup, hdown⟩)
    have hfloor : 0 < place 1e-9 := by decide
    have habove := (le_iff.1 ((Binary64.not_lt_iff hx (by decide)).1 hlt)).2.2
    rw [floor_of_not_lt hx hlt, floor_of_not_lt hy hnot]
    exact eq_of_place_eq hplace (by omega)

theorem not_wide_of_zero {x : Float} (h : place x = 0) : ¬wideRatio < x / 1e-9 := by
  obtain rfl | rfl := eq_zero_of_place h
  · decide
  · decide

theorem isWide_iff {values : List Float} :
    isWide values = true ↔ (greatest values).isNaN = false ∧ (least values).isNaN = false ∧
      wideRatio < greatest values / greater (least values) 1e-9 := by
  rw [isWide]
  cases (greatest values).isNaN <;> cases (least values).isNaN <;> simp

theorem place_greatest_of_isWide {values : List Float} (h : isWide values = true) :
    place (greatest values) ≠ 0 := by
  obtain ⟨hgreatest, hleast, hratio⟩ := isWide_iff.1 h
  intro hzero
  have hle := (le_iff.1 (least_le_greatest hgreatest)).2.2
  have hfloor : 0 < place 1e-9 := by decide
  have hlt : least values < 1e-9 := lt_iff.2 ⟨hleast, by decide, by omega⟩
  rw [floor_of_lt hlt] at hratio
  exact not_wide_of_zero hzero hratio

theorem isWide_of_sameNumbers {left right : List Float} (h : SameNumbers left right)
    (hwide : isWide left = true) : isWide right = true := by
  obtain ⟨hgreatest, hleast, hratio⟩ := isWide_iff.1 hwide
  have hup := h.greatest_le (le_refl_iff.2 hgreatest)
  have hgreatest' := (le_iff.1 hup).2.1
  have hdown := h.symm.greatest_le (le_refl_iff.2 hgreatest')
  have hsame : greatest left = greatest right :=
    eq_of_place_eq (beq_iff.1 (beq_iff_le.2 ⟨hup, hdown⟩)).2.2 (place_greatest_of_isWide hwide)
  have hbelow := h.least_le (le_refl_iff.2 hleast)
  have hleast' := (le_iff.1 hbelow).1
  have habove := h.symm.least_le (le_refl_iff.2 hleast')
  rw [hsame, floor_eq habove hbelow] at hratio
  exact isWide_iff.2 ⟨hgreatest', hleast', hratio⟩

/-! ### The decisions -/

/-- Both layouts choose one unit for the same numbers: bars look at the positive ones only, but the others reach no unit. -/
theorem unit_ofSingle_eq_unit_ofClusters (settings : Settings) (group : String) {panel other : Panel}
    {variants : List String} (others : List String)
    (h : SameNumbers (barValues panel variants) other.allValues) :
    (ofSingle settings group panel variants).unit = (ofClusters settings group other others).unit :=
  (DisplayUnit.ofValues_positive _ _).trans (h.ofValues_eq settings.profile.unit)

/-- The unit of some values and whether they are wide depend on their numbers alone, which order, repetitions and NaNs do not change. Nanoseconds are shown in the unit of their largest number, and the positive ones decide. -/
theorem scale_of_numbers (unit : TimeUnit) (values : List Float) :
    (∀ others, SameNumbers values others →
      DisplayUnit.ofValues unit others = DisplayUnit.ofValues unit values ∧
        isWide others = isWide values) ∧
    (∀ others, (∀ value, value.isNaN = false → (value ∈ values ↔ value ∈ others)) →
      SameNumbers values others) ∧
    (∀ largest, IsLargest values largest →
      DisplayUnit.ofValues .nanoseconds values = .ofNanos largest) ∧
    ((∃ largest, IsLargest values largest) ↔ ∃ value ∈ values, value.isNaN = false) ∧
    ((∀ value ∈ values, value.isNaN = true) → DisplayUnit.ofValues .nanoseconds values = .nanos) ∧
    DisplayUnit.ofValues unit (values.filter fun value => 0 < value) =
      DisplayUnit.ofValues unit values ∧
    ∀ settings group panel variants other others,
      SameNumbers (barValues panel variants) other.allValues →
      (ofSingle settings group panel variants).unit =
        (ofClusters settings group other others).unit := by
  refine ⟨fun others h => ⟨h.symm.ofValues_eq unit, ?_⟩, fun others => SameNumbers.of_mem,
    fun largest => IsLargest.ofValues_eq, exists_isLargest_iff, DisplayUnit.ofValues_of_isNaN,
    DisplayUnit.ofValues_positive unit values, fun settings group panel variants other others => ?_⟩
  · rw [Bool.eq_iff_iff]
    exact ⟨isWide_of_sameNumbers h.symm, isWide_of_sameNumbers h⟩
  · exact unit_ofSingle_eq_unit_ofClusters settings group others

/-- Values in disorder, with a repetition, a NaN and a zero below zero. -/
def disordered : List Float := [1500, notANumber, -0, 1500, 2000000]

/-- Two variants without parameters. -/
def twoBars : Panel :=
  ((Panels.ofResults (.ofList [("g/a", 1500), ("g/b", 2000000)]) none).get? "g").getD .empty

/-- The same values of one variant with two parameters. -/
def twoClusters : Panel :=
  ((Panels.ofResults (.ofList [("g/a/1", 2000000), ("g/a/2", 1500)]) none).get? "g").getD .empty

theorem scale_of_numbers_disordered :
    DisplayUnit.ofValues .nanoseconds [0, 1500, 2000000] =
        DisplayUnit.ofValues .nanoseconds disordered ∧
      isWide [0, 1500, 2000000] = isWide disordered ∧
      DisplayUnit.ofValues .nanoseconds disordered = .millis ∧
      (ofSingle .standard "g" twoBars ["a", "b"]).unit =
        (ofClusters .standard "g" twoClusters ["a"]).unit := by
  obtain ⟨hnumbers, _, hlargest, _, _, _, hlayouts⟩ := scale_of_numbers .nanoseconds disordered
  have hzero (number : Float) : (number == -0) = (number == 0) := by
    have hplace : place (-0) = place 0 := by decide
    rw [Bool.eq_iff_iff, beq_iff, beq_iff, isNaN_neg, hplace]
  have hnone (number : Float) : (number == notANumber) = false := by
    have hnumber : notANumber.isNaN = true := by decide
    rw [← Bool.not_eq_true, beq_iff, hnumber]
    exact fun h => nomatch h.2.1
  have hsame : SameNumbers disordered [0, 1500, 2000000] := by
    intro number
    simp only [disordered, List.contains_cons, hzero, hnone]
    cases number == 0 <;> cases number == 1500 <;> rfl
  have hbars : barValues twoBars ["a", "b"] = [1500, 2000000] := by decide +kernel
  have hclusters : twoClusters.allValues = [2000000, 1500] := by decide +kernel
  obtain ⟨hunit, hwide⟩ := hnumbers _ hsame
  refine ⟨hunit, hwide, ?_, hlayouts .standard "g" twoBars _ twoClusters _ ?_⟩
  · rw [hlargest 2000000 ⟨by simp [disordered], by decide, by decide⟩]
    decide
  · rw [hbars, hclusters]
    exact SameNumbers.of_mem fun value _ => by simp [or_comm]

end Chart

end BenchReport

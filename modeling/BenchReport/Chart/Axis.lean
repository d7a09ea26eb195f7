import BenchReport.Number.Extremum
import BenchReport.Number.Text

/-!
# Value axes

How a chart places values between the foot and the top of its plot. A linear axis starts at zero and leaves a tenth above the greatest value; a logarithmic one spans whole decades. Values that are not positive stay at the foot.
-/

namespace BenchReport

structure ValueAxis where
  least : Float
  most : Float
  logarithmic : Bool

namespace ValueAxis

/-! ### Whole numbers

Decades are counted in signed integers of thirty-two bits, so an axis to infinity ends at the last of them.
-/

def floorInt (x : Float) : Int := Binary64.toInt32 Rat.floor x

def ceilInt (x : Float) : Int := Binary64.toInt32 Rat.ceil x

def roundInt (x : Float) : Int := Binary64.toInt32 Rat.floor (Binary64.roundHalfAway x)

example : floorInt 2.5 = 2 ∧ ceilInt 2.5 = 3 ∧ roundInt (-2.5) = -3 := by decide +kernel

example : ceilInt (1 / 0) = 2147483647 ∧ roundInt (-1 / 0) = -2147483648 ∧ floorInt (0 / 0) = 0 := by
  decide +kernel

/-! ### Axes -/

/-- The axis for the values of a chart. Without a positive value it ends at one. -/
def ofValues (values : List Float) (logarithmic : Bool) : ValueAxis :=
  let positive := values.filter fun value => 0 < value
  let high := positive.foldl greater 0
  let low := positive.foldl lesser (1 / 0)
  if logarithmic && 0 < high then
    let first := floorInt low.log10
    { least := Binary64.powTen first
      most := Binary64.powTen (max (ceilInt high.log10) (Binary64.saturate (first + 1)))
      logarithmic := true }
  else
    { least := 0
      most := if 0 < high then high * 1.1 else 1
      logarithmic := false }

/-- A number kept between zero and one; a NaN stays. -/
def clampUnit (x : Float) : Float := if x < 0 then 0 else if 1 < x then 1 else x

def share (axis : ValueAxis) (value : Float) : Float :=
  if value ≤ 0 then 0
  else if axis.logarithmic then
    clampUnit ((value.log10 - axis.least.log10) / (axis.most.log10 - axis.least.log10))
  else clampUnit ((value - axis.least) / (axis.most - axis.least))

/-- The steps of a linear axis. -/
def gridSteps : Nat := 5

def gridValues (axis : ValueAxis) : List Float :=
  if axis.logarithmic then
    let first := roundInt axis.least.log10
    let last := roundInt axis.most.log10
    (List.range (last + 1 - first).toNat).map fun (step : Nat) =>
      Binary64.powTen (first + step)
  else
    (List.range (gridSteps + 1)).map fun (step : Nat) =>
      axis.least + (axis.most - axis.least) * Binary64.ofInt step / Binary64.ofInt gridSteps

/-- A grid is bounded, whatever the values: there are at most as many decades as exponents. -/
theorem length_gridValues_le (axis : ValueAxis) : axis.gridValues.length ≤ 4294967296 := by
  have hfirst := (Binary64.toInt32_bounds Rat.floor (Binary64.roundHalfAway axis.least.log10)).1
  have hlast := (Binary64.toInt32_bounds Rat.floor (Binary64.roundHalfAway axis.most.log10)).2
  rw [gridValues]
  split
  · simp only [List.length_map, List.length_range, roundInt]
    omega
  · simp [gridSteps]

/-- A value beside its line, with as many places as its size calls for. -/
def gridLabel (value : Float) : String :=
  if 100 ≤ value || value == 0 then NumberText.fixed 0 value
  else if 1 ≤ value then NumberText.fixed 1 value
  else NumberText.fixed 2 value

end ValueAxis

end BenchReport

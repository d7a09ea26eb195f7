import BenchReport.Number.Extremum
import BenchReport.Number.Text

/-!
# Units of time

Results are nanoseconds or seconds. Nanoseconds are shown in the unit that the largest of them reaches; seconds are shown as they are.
-/

namespace BenchReport

inductive TimeUnit where
  | nanoseconds
  | seconds
  deriving DecidableEq, Repr

/-- The units in which values are shown. Seconds that were measured as such have a label of their own. -/
inductive DisplayUnit where
  | nanos
  | micros
  | millis
  | secs
  | wallSeconds
  deriving DecidableEq, Repr

namespace DisplayUnit

def divisor : DisplayUnit → Float
  | nanos => 1
  | micros => 1000
  | millis => 1000000
  | secs => 1000000000
  | wallSeconds => 1

def label : DisplayUnit → String
  | nanos => "ns"
  | micros => "µs"
  | millis => "ms"
  | secs => "s"
  | wallSeconds => "seconds"

/-- The label in plain tables, which have ASCII letters only. -/
def tableLabel : DisplayUnit → String
  | micros => "us"
  | unit => unit.label

def convert (unit : DisplayUnit) (value : Float) : Float := value / unit.divisor

/-- The largest unit that a number of nanoseconds reaches. -/
def ofNanos (value : Float) : DisplayUnit :=
  if secs.divisor ≤ value then secs
  else if millis.divisor ≤ value then millis
  else if micros.divisor ≤ value then micros
  else nanos

/-- One unit for all the values: that of the greatest number among them. -/
def ofValues (unit : TimeUnit) (values : List Float) : DisplayUnit :=
  match unit with
  | .seconds => wallSeconds
  | .nanoseconds => if (greatest values).isNaN then nanos else ofNanos (greatest values)

end DisplayUnit

/-! ### Values as text -/

/-- Nanoseconds have one place, and what is large enough for another unit has two. -/
def nanosText (value : Float) : String :=
  match DisplayUnit.ofNanos value with
  | .nanos => NumberText.fixed 1 value ++ " ns"
  | unit => NumberText.fixed 2 (unit.convert value) ++ " " ++ unit.tableLabel

def TimeUnit.text (unit : TimeUnit) (value : Float) : String :=
  match unit with
  | seconds => NumberText.fixed 2 value ++ "s"
  | nanoseconds => nanosText value

/-! ### Rounding -/

/-- The count of decimal places as a signed exponent of thirty-two bits; counts from 2³¹ on wrap to negative ones. -/
def placesExponent (places : UInt32) : Int := places.toInt32.toInt

/-- Rounds to so many decimal places: scales up, rounds to a whole number with a half away from zero, and scales down, each step in doubles. -/
def roundPlaces (value : Float) (places : UInt32) : Float :=
  let factor := Binary64.powTen (placesExponent places)
  Binary64.roundHalfAway (value * factor) / factor

end BenchReport

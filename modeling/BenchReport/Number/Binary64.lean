/-!
# Doubles as rational numbers

A finite double is a significand times a power of two. Reading that number off the bits, and going back to the nearest double, both happen in exact arithmetic, so everything the library prints, reads or rounds is decided by rational numbers and not by a machine's rounding mode.

The magnitude of a double is its bits without the sign. Counting magnitudes up from zero visits the nonnegative doubles in increasing order, which is why one formula covers subnormal numbers, the carry into the exponent, and the step to infinity.
-/

namespace BenchReport.Binary64

-- Powers are those of the core library, whatever is in scope; literal exponents need their type for it.
attribute [local instance (high)] instPowNat

/-- The bits of a double without its sign. -/
def magnitude (x : Float) : Nat := x.toBits.toNat % 2 ^ (63 : Nat)

def isNegative (x : Float) : Bool := decide (2 ^ (63 : Nat) ≤ x.toBits.toNat)

/-- The magnitude of infinity: the first one that stands for no number. -/
def infiniteMagnitude : Nat := 2047 * 2 ^ (52 : Nat)

def ofMagnitude (negative : Bool) (magnitude : Nat) : Float :=
  Float.ofBits (UInt64.ofNat (if negative then 2 ^ (63 : Nat) + magnitude else magnitude))

/-! ### The number behind a magnitude -/

/-- Normal numbers have a leading bit that is not stored. -/
def significand (magnitude : Nat) : Nat :=
  if magnitude < 2 ^ (52 : Nat) then magnitude else magnitude % 2 ^ (52 : Nat) + 2 ^ (52 : Nat)

/-- The power of two that scales the significand. Subnormal numbers share the least one. -/
def scale (magnitude : Nat) : Int := max (magnitude / 2 ^ (52 : Nat) : Nat) 1 - 1075

/-- The number that a finite magnitude stands for. -/
def value (magnitude : Nat) : Rat := (significand magnitude : Rat) * (2 : Rat) ^ scale magnitude

/-! ### The magnitude nearest to a number -/

/-- A nonnegative rational rounded to a natural number; a half goes to the even neighbour. -/
def roundHalfEven (r : Rat) : Nat :=
  let whole := r.num.toNat / r.den
  let rest := r.num.toNat % r.den
  if r.den < 2 * rest ∨ (2 * rest = r.den ∧ whole % 2 = 1) then whole + 1 else whole

/-- The exponent of the largest power of two that a positive rational reaches. -/
def floorLog2 (r : Rat) : Int :=
  let estimate : Int := Nat.log2 r.num.toNat - Nat.log2 r.den
  if (2 : Rat) ^ estimate ≤ r then estimate else estimate - 1

/-- The magnitude nearest to a nonnegative rational, of two equally near ones the even one. Numbers past the midpoint above the largest finite double go to infinity. -/
def nearestMagnitude (r : Rat) : Nat :=
  if r = 0 then 0
  else
    let exponent := max (floorLog2 r - 52) (-1074)
    let units := roundHalfEven (r * (2 : Rat) ^ (-exponent))
    min infiniteMagnitude ((exponent + 1074).toNat * 2 ^ (52 : Nat) + units)

def nearest (negative : Bool) (r : Rat) : Float := ofMagnitude negative (nearestMagnitude r)

def ofInt (n : Int) : Float := nearest (decide (n < 0)) (n.natAbs : Rat)

/-! ### Rounding to whole numbers -/

/-- Rounds the number behind a double to a whole number, given the rule for nonnegative numbers. The sign stays, also on a zero; numbers that are not finite stay as they are. -/
def roundMagnitude (rule : Rat → Nat) (x : Float) : Float :=
  if magnitude x < infiniteMagnitude then nearest (isNegative x) (rule (value (magnitude x))) else x

/-- Rounds to the nearest whole number; a half goes away from zero. -/
def roundHalfAway (x : Float) : Float :=
  roundMagnitude (fun r => (r + 1 / 2).floor.toNat) x

/-- The number behind a finite double; zero for the others. -/
def toRat (x : Float) : Rat :=
  if magnitude x < infiniteMagnitude then
    if isNegative x then -value (magnitude x) else value (magnitude x)
  else 0

/-! ### Signed integers of thirty-two bits -/

/-- The nearest integer that thirty-two signed bits hold. -/
def saturate (n : Int) : Int := max (-2147483648) (min n 2147483647)

/-- A double as a signed integer of thirty-two bits, given the rule for finite ones. What is past an end of the range goes to that end, infinities too; a NaN goes to zero. -/
def toInt32 (rule : Rat → Int) (x : Float) : Int :=
  if x.isNaN then 0
  else if magnitude x < infiniteMagnitude then saturate (rule (toRat x))
  else if isNegative x then -2147483648
  else 2147483647

theorem saturate_bounds (n : Int) : -2147483648 ≤ saturate n ∧ saturate n ≤ 2147483647 := by
  unfold saturate
  omega

theorem toInt32_bounds (rule : Rat → Int) (x : Float) :
    -2147483648 ≤ toInt32 rule x ∧ toInt32 rule x ≤ 2147483647 := by
  unfold toInt32
  split
  · decide
  · split
    · exact saturate_bounds _
    · split <;> decide

/-! ### Powers of ten -/

/-- A power by repeated squaring, least significant bit of the exponent first; every product is rounded. -/
def powNat (base : Float) (exponent : Nat) (product : Float) : Float :=
  let next := if exponent % 2 = 1 then product * base else product
  if h : exponent / 2 = 0 then next
  else powNat (base * base) (exponent / 2) next
termination_by exponent
decreasing_by omega

/-- A power of ten; a negative exponent gives the reciprocal of the positive power. -/
def powTen (exponent : Int) : Float :=
  let power := powNat 10 exponent.natAbs 1
  if exponent < 0 then 1 / power else power

end BenchReport.Binary64

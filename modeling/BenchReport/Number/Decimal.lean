import BenchReport.Number.Binary64

/-!
# Decimal numbers

A decimal is a whole number of units of a power of ten. It is what a number's text says before any rounding, and what a double's text is made from.

The fewest digits that read back are found by trying: for one digit, two digits and so on, the two neighbours of the number on that grid are read with the very reader that will meet the text later. Should no grid of up to seventeen digits have a hit, all digits of the exact expansion are taken, so reading back needs no bound on the digits a double may require.
-/

namespace BenchReport

-- Powers are those of the core library, whatever is in scope; literal exponents need their type for it.
attribute [local instance (high)] instPowNat

structure Decimal where
  digits : Nat
  exponent : Int
  deriving DecidableEq, Repr, Inhabited

namespace Decimal

def toRat (d : Decimal) : Rat := (d.digits : Rat) * (10 : Rat) ^ d.exponent

/-- The number of digits of a natural number; zero has one. -/
def digitCount (n : Nat) : Nat := (Nat.toDigits 10 n).length

/-- The exponent of ten at which the leading digit stands. -/
def leadingExponent (d : Decimal) : Int := digitCount d.digits + d.exponent - 1

/-- The magnitude of the double nearest to a decimal. A number far outside the range of doubles is settled by the place of its leading digit alone. -/
def nearestMagnitude (d : Decimal) : Nat :=
  if d.digits = 0 then 0
  else if 400 < d.leadingExponent then Binary64.infiniteMagnitude
  else if d.leadingExponent < -400 then 0
  else Binary64.nearestMagnitude d.toRat

def toFloat (negative : Bool) (d : Decimal) : Float :=
  Binary64.ofMagnitude negative d.nearestMagnitude

def trim (d : Decimal) : Decimal :=
  if h : d.digits = 0 then ⟨0, 0⟩
  else if d.digits % 10 = 0 then trim ⟨d.digits / 10, d.exponent + 1⟩
  else d
termination_by d.digits
decreasing_by all_goals omega

/-! ### The decimals of a double -/

def exact (magnitude : Nat) : Decimal :=
  let scale := Binary64.scale magnitude
  if 0 ≤ scale then ⟨Binary64.significand magnitude * 2 ^ scale.toNat, 0⟩
  else ⟨Binary64.significand magnitude * 5 ^ (-scale).toNat, scale⟩

/-- The exponent of the largest power of ten that a positive rational reaches. -/
def floorLog10 (r : Rat) : Int :=
  let estimate : Int := digitCount r.num.toNat - digitCount r.den
  if (10 : Rat) ^ estimate ≤ r then estimate else estimate - 1

/-- Which of two equally near decimals is taken. -/
inductive Tie where
  | even
  | up
  deriving DecidableEq, Repr

/-- The two neighbours of a number among the decimals of so many digits, the nearer one first. -/
def neighbours (tie : Tie) (r : Rat) (count : Nat) : List Decimal :=
  let exponent := floorLog10 r + 1 - count
  let units := r * (10 : Rat) ^ (-exponent)
  let whole := units.floor.toNat
  let rest := 2 * (units - whole)
  let upFirst := decide (1 < rest) || (rest == 1 && (tie == .up || whole % 2 == 1))
  if upFirst then [⟨whole + 1, exponent⟩, ⟨whole, exponent⟩]
  else [⟨whole, exponent⟩, ⟨whole + 1, exponent⟩]

/-- A decimal of so many digits that reads back as the magnitude. -/
def ofCount? (tie : Tie) (magnitude : Nat) (count : Nat) : Option Decimal :=
  (neighbours tie (Binary64.value magnitude) count).find? fun d => d.nearestMagnitude == magnitude

/-- The decimal with the fewest digits that reads back as a finite magnitude, of several the nearest. -/
def shortest (tie : Tie) (magnitude : Nat) : Decimal :=
  (((List.range' 1 17).findSome? (ofCount? tie magnitude)).getD (exact magnitude)).trim

end Decimal

end BenchReport

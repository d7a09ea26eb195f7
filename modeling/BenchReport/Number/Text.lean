import BenchReport.Number.Decimal

/-!
# Number text

Two ways to write a double. Fixed places round the exact binary value, a half to the even digit, however large the number. The shortest text takes the fewest digits that read back and a layout says where positional notation ends and what a whole number looks like.
-/

namespace BenchReport.NumberText

def zeros (count : Nat) : List Char := List.replicate count '0'

def digits (n : Nat) : List Char := Nat.toDigits 10 n

def signed (x : Float) (text : List Char) : List Char :=
  if Binary64.isNegative x then '-' :: text else text

/-- The text of a double that is not finite. A NaN has no sign. -/
def notFinite (x : Float) : List Char :=
  if Binary64.magnitude x = Binary64.infiniteMagnitude then signed x ['i', 'n', 'f']
  else ['N', 'a', 'N']

/-! ### Fixed places -/

/-- A whole number of units of the last place, with the point set. -/
def placed (places units : Nat) : List Char :=
  let text := digits units
  let padded := zeros (places + 1 - text.length) ++ text
  let whole := padded.take (padded.length - places)
  if places = 0 then whole else whole ++ '.' :: padded.drop (padded.length - places)

/-- A double with so many digits after the point. -/
def fixed (places : Nat) (x : Float) : String :=
  if Binary64.magnitude x < Binary64.infiniteMagnitude then
    let units := Binary64.roundHalfEven (Binary64.value (Binary64.magnitude x) * (10 : Rat) ^ places)
    String.ofList (signed x (placed places units))
  else String.ofList (notFinite x)

/-- Fixed places with a plus sign on everything that is neither negative nor a NaN. -/
def fixedSigned (places : Nat) (x : Float) : String :=
  if Binary64.isNegative x ∨ x.isNaN then fixed places x else "+" ++ fixed places x

/-! ### Shortest text -/

/-- How the digits of a shortest text are laid out. -/
structure Layout where
  /-- The exponents of the leading digit at which no exponent is written. -/
  positional : Int → Bool
  /-- Whether a whole number in positional notation ends in a zero fraction. -/
  zeroFraction : Bool
  tie : Decimal.Tie

/-- Numbers in data files have a fraction or an exponent, so that they never look like integers. -/
def Layout.data : Layout := ⟨fun exponent => -5 ≤ exponent && exponent ≤ 15, true, .even⟩

/-- Numbers in messages never have an exponent. -/
def Layout.message : Layout := ⟨fun _ => true, false, .up⟩

/-- All digits, and zeros up to the point or after it. -/
def positionalText (zeroFraction : Bool) (d : Decimal) : List Char :=
  let text := digits d.digits
  let point := text.length + d.exponent
  if point ≤ 0 then '0' :: '.' :: zeros (-point).toNat ++ text
  else if text.length ≤ point then
    text ++ zeros (point - text.length).toNat ++ if zeroFraction then ['.', '0'] else []
  else text.take point.toNat ++ '.' :: text.drop point.toNat

/-- One digit before the point, and the exponent with its sign. -/
def scientificText (d : Decimal) : List Char :=
  let text := digits d.digits
  let fraction := if text.length = 1 then [] else '.' :: text.drop 1
  let exponent := d.leadingExponent
  text.take 1 ++ fraction ++ 'e' :: (if exponent < 0 then '-' else '+') :: digits exponent.natAbs

def Layout.decimalText (layout : Layout) (d : Decimal) : List Char :=
  if layout.positional d.leadingExponent then positionalText layout.zeroFraction d
  else scientificText d

def Layout.text (layout : Layout) (x : Float) : List Char :=
  if Binary64.magnitude x < Binary64.infiniteMagnitude then
    signed x (layout.decimalText (Decimal.shortest layout.tie (Binary64.magnitude x)))
  else notFinite x

end BenchReport.NumberText

import BenchReport.Number.Decimal

/-!
# Reading numbers

The decimal notation that settings and logs use: digits with or without a point, at least one digit on either side of it, and an exponent if there is one. Nothing may precede or follow, and only the ten digits of ASCII count.
-/

namespace BenchReport.NumberText

-- Powers are those of the core library, whatever is in scope; literal exponents need their type for it.
attribute [local instance (high)] instPowNat

def isDigit (c : Char) : Bool := '0' ≤ c && c ≤ '9'

def digitsValue (digits : List Char) : Nat := Nat.ofDigitChars 10 digits 0

def decimalOf (whole fraction : List Char) (exponent : Int) : Decimal :=
  ⟨digitsValue (whole ++ fraction), exponent - fraction.length⟩

/-- A fraction with its point: its digits, possibly none, and the rest. -/
def readFraction : List Char → List Char × List Char
  | '.' :: rest => (rest.takeWhile isDigit, rest.dropWhile isDigit)
  | chars => ([], chars)

/-- The exponent that ends a number, zero where the number ends without one. -/
def readExponent? : List Char → Option Int
  | [] => some 0
  | mark :: rest =>
    if mark = 'e' ∨ mark = 'E' then
      let negative := rest.head? = some '-'
      let digits := if rest.head? = some '-' ∨ rest.head? = some '+' then rest.drop 1 else rest
      if !digits.isEmpty && digits.all isDigit then
        some (if negative then -(digitsValue digits : Int) else digitsValue digits)
      else none
    else none

def readDecimal? (chars : List Char) : Option Decimal :=
  let whole := chars.takeWhile isDigit
  let (fraction, rest) := readFraction (chars.dropWhile isDigit)
  if whole.isEmpty && fraction.isEmpty then none
  else (readExponent? rest).map (decimalOf whole fraction)

/-- The doubles that are written as words, in any case. -/
def readWord? (negative : Bool) (chars : List Char) : Option Float :=
  let word := chars.map Char.toLower
  if word = "inf".toList ∨ word = "infinity".toList then
    some (Binary64.ofMagnitude negative Binary64.infiniteMagnitude)
  else if word = "nan".toList then some (0 / 0)
  else none

/-- The double nearest to a number with an optional sign. -/
def readFloat? (text : String) : Option Float :=
  let chars := text.toList
  let negative := decide (chars.head? = some '-')
  let body := if negative ∨ chars.head? = some '+' then chars.drop 1 else chars
  match readDecimal? body with
  | some d => some (d.toFloat negative)
  | none => readWord? negative body

/-- A natural number below a limit; no sign and no blank. -/
def readNat? (limit : Nat) (text : String) : Option Nat :=
  let chars := text.toList
  if !chars.isEmpty && chars.all isDigit && digitsValue chars < limit then some (digitsValue chars)
  else none

/-- An integer of sixty-four bits with an optional sign. -/
def readInt64? (text : String) : Option Int :=
  let chars := text.toList
  let negative := decide (chars.head? = some '-')
  let body := if negative ∨ chars.head? = some '+' then chars.drop 1 else chars
  if body.isEmpty || !body.all isDigit then none
  else
    let value : Int := if negative then -(digitsValue body : Int) else digitsValue body
    if -(2 ^ (63 : Nat)) ≤ value ∧ value < 2 ^ (63 : Nat) then some value else none

end BenchReport.NumberText

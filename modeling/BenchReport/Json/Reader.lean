import BenchReport.Json.Basic
import BenchReport.Number.Reader

/-!
# Reading JSON

A strict reader: one value, nothing around it but blanks, no raw control characters in strings, no half of a surrogate pair, no number beyond the range of doubles, and containers nested at most 127 deep. The fields of an object are all kept, in the order of the text.

A value is read by recursion on the depth that is left. The items of one container are read by a loop whose fuel is the length of the text, which no container can exhaust since every item takes a character.
-/

namespace BenchReport.Json

-- Powers are those of the core library, whatever is in scope; literal exponents need their type for it.
attribute [local instance (high)] instPowNat

def isBlank (c : Char) : Bool := c == ' ' || c == '\n' || c == '\t' || c == '\r'

def skipBlanks (chars : List Char) : List Char := chars.dropWhile isBlank

/-! ### Strings -/

def hexValue? (c : Char) : Option Nat :=
  if '0' ≤ c ∧ c ≤ '9' then some (c.toNat - 48)
  else if 'a' ≤ c ∧ c ≤ 'f' then some (c.toNat - 87)
  else if 'A' ≤ c ∧ c ≤ 'F' then some (c.toNat - 55)
  else none

/-- The code unit of an escape with four hexadecimal digits. -/
def hexUnit? (a b c d : Char) : Option Nat := do
  let a ← hexValue? a
  let b ← hexValue? b
  let c ← hexValue? c
  let d ← hexValue? d
  return ((a * 16 + b) * 16 + c) * 16 + d

def isHighSurrogate (unit : Nat) : Bool := 0xd800 ≤ unit && unit < 0xdc00

def isLowSurrogate (unit : Nat) : Bool := 0xdc00 ≤ unit && unit < 0xe000

def surrogatePair (high low : Nat) : Char :=
  Char.ofNat (0x10000 + (high - 0xd800) * 0x400 + (low - 0xdc00))

/-- The character of an escape with one letter. -/
def unescape? : Char → Option Char
  | '"' => some '"'
  | '\\' => some '\\'
  | '/' => some '/'
  | 'b' => some '\x08'
  | 'f' => some '\x0c'
  | 'n' => some '\n'
  | 'r' => some '\r'
  | 't' => some '\t'
  | _ => none

def readChars? : List Char → Option (List Char × List Char)
  | '"' :: rest => some ([], rest)
  | '\\' :: 'u' :: a :: b :: c :: d :: rest =>
    match hexUnit? a b c d with
    | none => none
    | some unit =>
      if isLowSurrogate unit then none
      else if isHighSurrogate unit then
        match rest with
        | '\\' :: 'u' :: e :: f :: g :: h :: rest =>
          match hexUnit? e f g h with
          | none => none
          | some low =>
            if isLowSurrogate low then
              (readChars? rest).map fun read => (surrogatePair unit low :: read.1, read.2)
            else none
        | _ => none
      else (readChars? rest).map fun read => (Char.ofNat unit :: read.1, read.2)
  | '\\' :: c :: rest =>
    match unescape? c with
    | none => none
    | some shown => (readChars? rest).map fun read => (shown :: read.1, read.2)
  | c :: rest =>
    if c.toNat < 0x20 then none
    else (readChars? rest).map fun read => (c :: read.1, read.2)
  | [] => none

/-! ### Numbers -/

/-- Whole digits without a leading zero. -/
def readWhole? (chars : List Char) : Option (List Char × List Char) :=
  let whole := chars.takeWhile NumberText.isDigit
  let rest := chars.dropWhile NumberText.isDigit
  match whole with
  | [] => none
  | '0' :: _ :: _ => none
  | _ => some (whole, rest)

/-- A fraction, which needs a digit after its point. -/
def readFraction? : List Char → Option (List Char × List Char)
  | '.' :: rest =>
    let digits := rest.takeWhile NumberText.isDigit
    if digits.isEmpty then none else some (digits, rest.dropWhile NumberText.isDigit)
  | chars => some ([], chars)

/-- An exponent, which needs a digit after its mark and sign. -/
def readExponent? : List Char → Option (Option Int × List Char)
  | [] => some (none, [])
  | mark :: rest =>
    if mark = 'e' ∨ mark = 'E' then
      let negative := decide (rest.head? = some '-')
      let body := if rest.head? = some '-' ∨ rest.head? = some '+' then rest.drop 1 else rest
      let digits := body.takeWhile NumberText.isDigit
      let magnitude : Int := NumberText.digitsValue digits
      if digits.isEmpty then none
      else some (some (if negative then -magnitude else magnitude), body.dropWhile NumberText.isDigit)
    else some (none, mark :: rest)

/-- Digits alone are an integer if they fit, except that a negative zero is a double. -/
def numberOf? (negative : Bool) (whole fraction : List Char) (exponent : Option Int) : Option Number :=
  let magnitude := NumberText.digitsValue whole
  if fraction.isEmpty && exponent.isNone && !negative && magnitude < 2 ^ (64 : Nat) then
    some (.integer magnitude)
  else if fraction.isEmpty && exponent.isNone && negative && magnitude ≠ 0 &&
      magnitude ≤ 2 ^ (63 : Nat) then
    some (.integer (-magnitude))
  else
    let nearest := (NumberText.decimalOf whole fraction (exponent.getD 0)).nearestMagnitude
    if nearest < Binary64.infiniteMagnitude then
      some (.real (Binary64.ofMagnitude negative nearest))
    else none

def readNumber? (chars : List Char) : Option (Number × List Char) := do
  let negative := decide (chars.head? = some '-')
  let (whole, rest) ← readWhole? (if negative then chars.drop 1 else chars)
  let (fraction, rest) ← readFraction? rest
  let (exponent, rest) ← readExponent? rest
  return (← numberOf? negative whole fraction exponent, rest)

/-! ### Values -/

/-- A value of the text after any blanks, and the rest. -/
abbrev ItemReader (α : Type) := List Char → Option (α × List Char)

def readItems? {α : Type} (close : Char) (item : ItemReader α) : Nat → ItemReader (List α)
  | 0, _ => none
  | fuel + 1, chars => do
    let (value, rest) ← item chars
    match skipBlanks rest with
    | [] => none
    | mark :: rest =>
      if mark = close then return ([value], rest)
      else if mark = ',' then
        let (values, rest) ← readItems? close item fuel rest
        return (value :: values, rest)
      else none

/-- A container after its opening character; an empty one is closed at once. -/
def readContainer? {α : Type} (close : Char) (item : ItemReader α) : ItemReader (List α) :=
  fun chars =>
  match skipBlanks chars with
  | [] => none
  | mark :: rest =>
    if mark = close then some ([], rest) else readItems? close item chars.length (mark :: rest)

def readField? (value : ItemReader Json) : ItemReader (String × Json) := fun chars =>
  match skipBlanks chars with
  | '"' :: rest => do
    let (name, rest) ← readChars? rest
    match skipBlanks rest with
    | ':' :: rest =>
      let (field, rest) ← value rest
      return ((String.ofList name, field), rest)
    | _ => none
  | _ => none

/-- A word with a value of its own. -/
def readWord? (word : String) (value : Json) : ItemReader Json := fun chars =>
  if word.toList <+: chars then some (value, chars.drop word.length) else none

def readScalar? : ItemReader Json
  | '"' :: rest => (readChars? rest).map fun read => (string (String.ofList read.1), read.2)
  | 'n' :: rest => readWord? "null" null ('n' :: rest)
  | 't' :: rest => readWord? "true" (bool true) ('t' :: rest)
  | 'f' :: rest => readWord? "false" (bool false) ('f' :: rest)
  | chars => (readNumber? chars).map fun read => (number read.1, read.2)

/-- A value whose containers are nested at most so deep. -/
def readValue? : Nat → ItemReader Json
  | 0, chars =>
    match skipBlanks chars with
    | '[' :: _ => none
    | '\x7b' :: _ => none
    | chars => readScalar? chars
  | depth + 1, chars =>
    match skipBlanks chars with
    | '[' :: rest => (readContainer? ']' (readValue? depth) rest).map fun read => (array read.1, read.2)
    | '\x7b' :: rest =>
      (readContainer? '\x7d' (readField? (readValue? depth)) rest).map fun read =>
        (object read.1, read.2)
    | chars => readScalar? chars

def depthLimit : Nat := 127

def read? (text : String) : Option Json :=
  match readValue? depthLimit text.toList with
  | some (value, rest) => if (skipBlanks rest).isEmpty then some value else none
  | none => none

end BenchReport.Json

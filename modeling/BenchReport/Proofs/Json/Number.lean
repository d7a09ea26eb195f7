import BenchReport.Json.Printer
import BenchReport.Json.Reader
import BenchReport.Proofs.Number.Bits
import BenchReport.Proofs.Number.Decimal
import BenchReport.Proofs.Number.Digits

/-!
# Numbers in documents

A number is read as its digits before the point, those behind it and its exponent. Whatever the notation, the decimal that these make up is the one that was written, so a finite double reads back as itself, its sign included. A written double always has a fraction or an exponent; that is why it never reads back as an integer.
-/

namespace BenchReport.Json

open NumberText

/-- What may follow a number: nothing that its text could go on with. -/
def EndsNumber (rest : List Char) : Prop :=
  ∀ c ∈ rest.head?, isDigit c = false ∧ c ≠ '.' ∧ c ≠ 'e' ∧ c ≠ 'E'

/-! ### The three parts -/

theorem readWhole?_append {whole rest : List Char} (hdigits : ∀ c ∈ whole, isDigit c = true)
    (hne : whole ≠ []) (hzero : whole.head? = some '0' → whole = ['0'])
    (hrest : ∀ c ∈ rest.head?, isDigit c = false) :
    readWhole? (whole ++ rest) = some (whole, rest) := by
  rw [readWhole?, takeWhile_run hdigits hrest, dropWhile_run hdigits hrest]
  split
  · exact absurd rfl hne
  · have := hzero rfl
    simp at this
  · rfl

/-- A fraction with its point, or nothing. -/
def fractionText (fraction : List Char) : List Char :=
  if fraction = [] then [] else '.' :: fraction

theorem readFraction?_append (fraction : List Char) {rest : List Char}
    (hdigits : ∀ c ∈ fraction, isDigit c = true)
    (hrest : ∀ c ∈ rest.head?, isDigit c = false ∧ c ≠ '.') :
    readFraction? (fractionText fraction ++ rest) = some (fraction, rest) := by
  rw [fractionText]
  by_cases hempty : fraction = []
  · rw [if_pos hempty, hempty, List.nil_append]
    cases rest with
    | nil => rfl
    | cons c rest =>
        rw [readFraction?]
        rintro _ ⟨⟩
        exact (hrest '.' rfl).2 rfl
  · have hdigit : ∀ c ∈ rest.head?, isDigit c = false := fun c hc => (hrest c hc).1
    rw [if_neg hempty, List.cons_append, readFraction?, takeWhile_run hdigits hdigit,
      dropWhile_run hdigits hdigit]
    simp [hempty]

theorem readExponent?_of_ne {rest : List Char} (h : ∀ c ∈ rest.head?, c ≠ 'e' ∧ c ≠ 'E') :
    readExponent? rest = some (none, rest) := by
  cases rest with
  | nil => rfl
  | cons c rest =>
      have hc := h c rfl
      rw [readExponent?, if_neg (by simp [hc])]

theorem readExponent?_append (exponent : Int) {rest : List Char}
    (hrest : ∀ c ∈ rest.head?, isDigit c = false) :
    readExponent? ('e' :: (if exponent < 0 then '-' else '+') :: digits exponent.natAbs ++ rest) =
      some (some exponent, rest) := by
  have hdigits := fun c => isDigit_of_mem_digits (n := exponent.natAbs) (c := c)
  rw [List.cons_append, List.cons_append, readExponent?, if_pos (.inl rfl)]
  by_cases hnegative : exponent < 0
  · simp [hnegative, takeWhile_run hdigits hrest, dropWhile_run hdigits hrest,
      digitsValue_digits, digits_ne_nil, -Nat.cast_natAbs]
    omega
  · simp [hnegative, takeWhile_run hdigits hrest, dropWhile_run hdigits hrest,
      digitsValue_digits, digits_ne_nil, -Nat.cast_natAbs]
    omega

/-! ### The number that they make up -/

theorem numberOf?_real {negative : Bool} {whole fraction : List Char} {exponent : Option Int}
    (hreal : fraction ≠ [] ∨ exponent ≠ none) {d : Decimal}
    (hd : (decimalOf whole fraction (exponent.getD 0)).toRat = d.toRat)
    (hfinite : d.nearestMagnitude < Binary64.infiniteMagnitude) :
    numberOf? negative whole fraction exponent =
      some (.real (Binary64.ofMagnitude negative d.nearestMagnitude)) := by
  have hshape : (fraction.isEmpty && exponent.isNone) = false := by
    cases fraction <;> cases exponent <;> simp_all
  have hsame : (decimalOf whole fraction (exponent.getD 0)).nearestMagnitude = d.nearestMagnitude := by
    rw [Decimal.nearestMagnitude_eq, Decimal.nearestMagnitude_eq, hd]
  rw [numberOf?]
  simp only [hshape, hsame, Bool.false_and, Bool.false_eq_true, if_false, if_pos hfinite]

theorem readNumber?_eq {negative : Bool} {chars whole fraction afterWhole afterFraction rest : List Char}
    {exponent : Option Int} (hwhole : readWhole? chars = some (whole, afterWhole))
    (hfraction : readFraction? afterWhole = some (fraction, afterFraction))
    (hexponent : readExponent? afterFraction = some (exponent, rest)) :
    readNumber? (if negative then '-' :: chars else chars) =
      (numberOf? negative whole fraction exponent).map (·, rest) := by
  have hsign : decide ((if negative then '-' :: chars else chars).head? = some '-') = negative := by
    cases negative with
    | true => rfl
    | false =>
        rw [decide_eq_false_iff_not]
        intro hhead
        cases chars with
        | nil => cases hhead
        | cons c rest =>
            cases hhead
            rw [readWhole?] at hwhole
            simp [show isDigit '-' = false from rfl] at hwhole
  rw [readNumber?, hsign]
  cases negative <;>
    simp only [if_true, if_false, Bool.false_eq_true, List.drop_one, List.tail_cons, hwhole, hfraction,
      hexponent, bind, Option.bind, pure] <;>
    cases numberOf? _ whole fraction exponent <;> rfl

/-! ### Written doubles -/

/-- A number whose parts make up a decimal, and no integer, reads as the nearest double. -/
theorem readNumber?_of_parts (negative : Bool) (whole fraction after : List Char)
    {chars rest : List Char} {exponent : Option Int} {d : Decimal}
    (hchars : chars = whole ++ (fractionText fraction ++ after))
    (hwhole : ∀ c ∈ whole, isDigit c = true) (hne : whole ≠ [])
    (hzero : whole.head? = some '0' → whole = ['0']) (hfraction : ∀ c ∈ fraction, isDigit c = true)
    (hafter : ∀ c ∈ after.head?, isDigit c = false ∧ c ≠ '.')
    (hexponent : readExponent? after = some (exponent, rest)) (hreal : fraction ≠ [] ∨ exponent ≠ none)
    (hd : (decimalOf whole fraction (exponent.getD 0)).toRat = d.toRat)
    (hfinite : d.nearestMagnitude < Binary64.infiniteMagnitude) :
    readNumber? (if negative then '-' :: chars else chars) =
      some (.real (Binary64.ofMagnitude negative d.nearestMagnitude), rest) := by
  have hpoint : ∀ c ∈ (fractionText fraction ++ after).head?, isDigit c = false := by
    rw [fractionText]
    split
    · exact fun c hc => (hafter c hc).1
    · rintro _ ⟨⟩
      rfl
  rw [hchars, readNumber?_eq (readWhole?_append hwhole hne hzero hpoint)
    (readFraction?_append fraction hfraction hafter) hexponent, numberOf?_real hreal hd hfinite,
    Option.map_some]

theorem isDigit_take {n count : Nat} {c : Char} (h : c ∈ (digits n).take count) : isDigit c = true :=
  isDigit_of_mem_digits (List.mem_of_mem_take h)

theorem isDigit_drop {n count : Nat} {c : Char} (h : c ∈ (digits n).drop count) : isDigit c = true :=
  isDigit_of_mem_digits (List.mem_of_mem_drop h)

/-- Digits with the point set among them make up the number with the right power of ten. -/
theorem decimalOf_take_drop (d : Decimal) {count : Nat} (hcount : count ≤ (digits d.digits).length)
    {exponent : Int} (hexponent : exponent = d.exponent + ((digits d.digits).length - count)) :
    decimalOf ((digits d.digits).take count) ((digits d.digits).drop count) exponent = d := by
  rw [decimalOf, List.take_append_drop, digitsValue_digits, List.length_drop, hexponent,
    show d.exponent + (((digits d.digits).length : Int) - count) -
      ((digits d.digits).length - count : Nat) = d.exponent by omega]

section Text

variable {d : Decimal} {rest : List Char} (negative : Bool)
  (hfinite : d.nearestMagnitude < Binary64.infiniteMagnitude) (hrest : EndsNumber rest)

include hfinite hrest

/-- All digits are behind the point. -/
theorem readNumber?_behind (hlow : (digits d.digits).length + d.exponent ≤ 0) :
    readNumber? (if negative then '-' :: (positionalText true d ++ rest)
        else positionalText true d ++ rest) =
      some (.real (Binary64.ofMagnitude negative d.nearestMagnitude), rest) := by
  refine readNumber?_of_parts negative ['0']
    (zeros (-((digits d.digits).length + d.exponent)).toNat ++ digits d.digits) rest ?_
    (List.forall_mem_singleton.2 rfl) (by decide) (fun _ => rfl) ?_ (fun c hc => ⟨(hrest c hc).1, (hrest c hc).2.1⟩)
    (readExponent?_of_ne fun c hc => (hrest c hc).2.2) (.inl (by simp [digits_ne_nil]))
    (congrArg Decimal.toRat ?_) hfinite
  · rw [positionalText]
    simp [hlow, fractionText, digits_ne_nil]
  · intro c hc
    rcases List.mem_append.1 hc with hc | hc
    · exact isDigit_of_mem_zeros hc
    · exact isDigit_of_mem_digits hc
  · have hvalue := digitsValue_zeros_append
      ((-((digits d.digits).length + d.exponent)).toNat + 1) (digits d.digits)
    rw [digitsValue_digits, zeros, List.replicate_succ, List.cons_append] at hvalue
    rw [decimalOf, Option.getD_none, List.length_append, zeros, List.length_replicate,
      List.singleton_append, hvalue, show (0 : Int) -
        ((-(((digits d.digits).length : Int) + d.exponent)).toNat + (digits d.digits).length : Nat) =
          d.exponent by omega]

/-- All digits are before the point, with zeros up to it. -/
theorem readNumber?_before (hshape : d.digits = 0 → d.exponent = 0) (hhigh : 0 ≤ d.exponent) :
    readNumber? (if negative then '-' :: (positionalText true d ++ rest)
        else positionalText true d ++ rest) =
      some (.real (Binary64.ofMagnitude negative d.nearestMagnitude), rest) := by
  have hlength := List.length_pos_iff.2 (digits_ne_nil d.digits)
  refine readNumber?_of_parts negative (digits d.digits ++ zeros d.exponent.toNat) ['0'] rest ?_ ?_
    (by simp [digits_ne_nil]) ?_ (List.forall_mem_singleton.2 rfl) (fun c hc => ⟨(hrest c hc).1, (hrest c hc).2.1⟩)
    (readExponent?_of_ne fun c hc => (hrest c hc).2.2) (.inl (by decide)) ?_ hfinite
  · have hlow : ¬(digits d.digits).length + d.exponent ≤ 0 := by omega
    rw [positionalText]
    simp [hlow, hhigh, fractionText]
  · intro c hc
    rcases List.mem_append.1 hc with hc | hc
    · exact isDigit_of_mem_digits hc
    · exact isDigit_of_mem_zeros hc
  · intro hhead
    rw [List.head?_append, List.head?_eq_some_head (digits_ne_nil _), Option.some_or,
      ← List.head?_eq_some_head] at hhead
    have hdigits := eq_zero_of_head?_digits hhead
    rw [hdigits, hshape hdigits]
    rfl
  · have hten : (10 : Rat) ≠ 0 := by norm_num
    have hpow : ((10 ^ d.exponent.toNat : Nat) : Rat) = 10 ^ d.exponent := by
      rw [Nat.cast_pow, Nat.cast_ofNat, ← zpow_natCast, Int.toNat_of_nonneg hhigh]
    rw [decimalOf, Decimal.toRat, Decimal.toRat, show ['0'] = zeros 1 from rfl,
      digitsValue_append_zeros, digitsValue_append_zeros, digitsValue_digits, Option.getD_none,
      Nat.cast_mul, Nat.cast_mul, hpow, zeros, List.length_replicate, zero_sub, zpow_neg]
    simp [mul_assoc]

/-- The point is among the digits. -/
theorem readNumber?_among (hshape : d.digits = 0 → d.exponent = 0)
    (hlow : ¬(digits d.digits).length + d.exponent ≤ 0) (hhigh : ¬0 ≤ d.exponent) :
    readNumber? (if negative then '-' :: (positionalText true d ++ rest)
        else positionalText true d ++ rest) =
      some (.real (Binary64.ofMagnitude negative d.nearestMagnitude), rest) := by
  have hcount : ((digits d.digits).length + d.exponent).toNat < (digits d.digits).length := by omega
  refine readNumber?_of_parts negative
    ((digits d.digits).take ((digits d.digits).length + d.exponent).toNat)
    ((digits d.digits).drop ((digits d.digits).length + d.exponent).toNat) rest ?_
    (fun c hc => isDigit_take hc) ?_ ?_ (fun c hc => isDigit_drop hc)
    (fun c hc => ⟨(hrest c hc).1, (hrest c hc).2.1⟩)
    (readExponent?_of_ne fun c hc => (hrest c hc).2.2) (.inl ?_)
    (congrArg Decimal.toRat (decimalOf_take_drop d hcount.le ?_)) hfinite
  · rw [positionalText, fractionText]
    simp [hlow, hhigh, Nat.not_le.2 hcount]
  · simp [digits_ne_nil]
    omega
  · intro hhead
    rw [List.head?_take, if_neg (by omega)] at hhead
    exact absurd (hshape (eq_zero_of_head?_digits hhead)).ge hhigh
  · simp
    omega
  · rw [Option.getD_none]
    omega

theorem readNumber?_positional (hshape : d.digits = 0 → d.exponent = 0) :
    readNumber? (if negative then '-' :: (positionalText true d ++ rest)
        else positionalText true d ++ rest) =
      some (.real (Binary64.ofMagnitude negative d.nearestMagnitude), rest) := by
  by_cases hlow : (digits d.digits).length + d.exponent ≤ 0
  · exact readNumber?_behind negative hfinite hrest hlow
  by_cases hhigh : 0 ≤ d.exponent
  · exact readNumber?_before negative hfinite hrest hshape hhigh
  · exact readNumber?_among negative hfinite hrest hshape hlow hhigh

theorem readNumber?_scientific (hpos : 0 < d.digits) :
    readNumber? (if negative then '-' :: (scientificText d ++ rest) else scientificText d ++ rest) =
      some (.real (Binary64.ofMagnitude negative d.nearestMagnitude), rest) := by
  have hlength := List.length_pos_iff.2 (digits_ne_nil d.digits)
  refine readNumber?_of_parts negative ((digits d.digits).take 1) ((digits d.digits).drop 1)
    ('e' :: (if d.leadingExponent < 0 then '-' else '+') ::
      digits d.leadingExponent.natAbs ++ rest) ?_ (fun c hc => isDigit_take hc) ?_ ?_
    (fun c hc => isDigit_drop hc) ?_
    (readExponent?_append d.leadingExponent fun c hc => (hrest c hc).1) (.inr (Option.some_ne_none _))
    (congrArg Decimal.toRat (decimalOf_take_drop d hlength ?_)) hfinite
  · have hone : (digits d.digits).length ≤ 1 ↔ (digits d.digits).length = 1 := by omega
    rw [scientificText, fractionText]
    simp only [List.drop_eq_nil_iff, hone, List.append_assoc, List.cons_append]
  · simp [digits_ne_nil]
  · intro hhead
    rw [List.head?_take] at hhead
    exact absurd (eq_zero_of_head?_digits hhead) hpos.ne'
  · rintro _ ⟨⟩
    decide
  · rw [Option.getD_some, Decimal.leadingExponent, Decimal.digitCount]
    change _ = d.exponent + ((Nat.toDigits 10 d.digits).length - (1 : Nat) : Int)
    omega

end Text

theorem signed_append (x : Float) (text rest : List Char) :
    signed x text ++ rest =
      if Binary64.isNegative x then '-' :: (text ++ rest) else text ++ rest := by
  rw [signed]
  split <;> rfl

/-- The data text of a decimal reads as the nearest double; a zero is always positional. -/
theorem readNumber?_decimalText (negative : Bool) {d : Decimal}
    (hfinite : d.nearestMagnitude < Binary64.infiniteMagnitude)
    (hshape : d.digits = 0 → d.exponent = 0) {rest : List Char} (hrest : EndsNumber rest) :
    readNumber? (if negative then '-' :: (Layout.data.decimalText d ++ rest)
        else Layout.data.decimalText d ++ rest) =
      some (.real (Binary64.ofMagnitude negative d.nearestMagnitude), rest) := by
  by_cases hlayout : Layout.data.positional d.leadingExponent = true
  · rw [Layout.decimalText, if_pos hlayout]
    exact readNumber?_positional negative hfinite hrest hshape
  · rw [Layout.decimalText, if_neg hlayout]
    refine readNumber?_scientific negative hfinite hrest (Nat.pos_of_ne_zero fun hzero => hlayout ?_)
    rw [show d = ⟨0, 0⟩ from by rw [← hshape hzero, ← hzero]]
    decide

/-- A finite double reads back as itself, its sign included. -/
theorem readNumber?_text {x : Float} (hfinite : Binary64.magnitude x < Binary64.infiniteMagnitude)
    {rest : List Char} (hrest : EndsNumber rest) :
    readNumber? (Layout.data.text x ++ rest) = some (.real x, rest) := by
  have hread := Decimal.nearestMagnitude_shortest .even hfinite
  rw [Layout.text, if_pos hfinite, signed_append]
  refine (readNumber?_decimalText (Binary64.isNegative x) (hread.symm ▸ hfinite)
    (Decimal.exponent_shortest .even) hrest).trans ?_
  rw [hread, Binary64.ofMagnitude_magnitude]

/-! ### Written integers -/

theorem numberOf?_integer {value : Int} (hlow : -(2 ^ 63) ≤ value) (hhigh : value < 2 ^ 64) :
    numberOf? (decide (value < 0)) (digits value.natAbs) [] none = some (.integer value) := by
  rw [numberOf?, digitsValue_digits]
  by_cases hnegative : value < 0
  · have hmost : value.natAbs ≤ 2 ^ 63 := by omega
    have hne : value.natAbs ≠ 0 := by omega
    have hvalue : -(value.natAbs : Int) = value := by omega
    simp only [decide_eq_true hnegative, hvalue, List.isEmpty_nil, Option.isNone_none, Bool.not_true,
      Bool.and_false, Bool.and_true, Bool.false_and, Bool.false_eq_true, if_false, hne, ne_eq,
      not_false_eq_true, decide_true, hmost, if_true]
  · have hmost : value.natAbs < 2 ^ 64 := by omega
    have hvalue : (value.natAbs : Int) = value := by omega
    simp only [decide_eq_false hnegative, hvalue, List.isEmpty_nil, Option.isNone_none, Bool.not_false,
      Bool.and_true, hmost, decide_true, if_true]

/-- An integer of at most sixty-four bits reads back as itself. -/
theorem readNumber?_integerText {value : Int} (hlow : -(2 ^ 63) ≤ value) (hhigh : value < 2 ^ 64)
    {rest : List Char} (hrest : EndsNumber rest) :
    readNumber? (integerText value ++ rest) = some (.integer value, rest) := by
  have hdigits := fun c => isDigit_of_mem_digits (n := value.natAbs) (c := c)
  have hform : integerText value ++ rest =
      if decide (value < 0) then '-' :: (digits value.natAbs ++ rest)
      else digits value.natAbs ++ rest := by
    rw [integerText]
    by_cases hnegative : value < 0 <;> simp [hnegative]
  have hzero : (digits value.natAbs).head? = some '0' → digits value.natAbs = ['0'] := by
    intro hhead
    rw [eq_zero_of_head?_digits hhead]
    rfl
  rw [hform, readNumber?_eq (readWhole?_append hdigits (digits_ne_nil _) hzero
    fun c hc => (hrest c hc).1) (readFraction?_append [] (by simp)
    fun c hc => ⟨(hrest c hc).1, (hrest c hc).2.1⟩) (readExponent?_of_ne fun c hc => (hrest c hc).2.2),
    numberOf?_integer hlow hhigh, Option.map_some]

/-- A number starts with a digit or a minus sign. -/
theorem start_of_readNumber? {chars rest : List Char} {number : Number}
    (h : readNumber? chars = some (number, rest)) :
    ∃ c tail, chars = c :: tail ∧ (c = '-' ∨ isDigit c = true) := by
  cases chars with
  | nil => cases h
  | cons c tail =>
      refine ⟨c, tail, rfl, ?_⟩
      by_contra hother
      rw [not_or, Bool.not_eq_true] at hother
      simp [readNumber?, readWhole?, hother] at h

end BenchReport.Json

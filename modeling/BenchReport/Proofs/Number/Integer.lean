import BenchReport.Number.Reader

/-!
# Integers of sixty-four bits

An integer is written as digits, with a sign before them or without. Leading zeros and a plus are allowed, so an integer has many writings, but a text writes one integer at most. A text is read exactly if it writes an integer that fits sixty-four bits; an integer beyond them is not cut down to one that fits.
-/

namespace BenchReport.NumberText

-- Powers are those of the core library, whatever is in scope; literal exponents need their type for it.
attribute [local instance (high)] instPowNat

/-- At least one digit, after a sign or not, and the integer that is written so. -/
inductive WritesInt : List Char → Int → Prop
  | unsigned {digits : List Char} (hdigits : digits ≠ []) (hall : ∀ c ∈ digits, isDigit c = true) :
      WritesInt digits (digitsValue digits)
  | plus {digits : List Char} (hdigits : digits ≠ []) (hall : ∀ c ∈ digits, isDigit c = true) :
      WritesInt ('+' :: digits) (digitsValue digits)
  | minus {digits : List Char} (hdigits : digits ≠ []) (hall : ∀ c ∈ digits, isDigit c = true) :
      WritesInt ('-' :: digits) (-digitsValue digits)

/-- A text that writes an integer of sixty-four bits. -/
structure WritesInt64 (text : String) (value : Int) : Prop where
  writes : WritesInt text.toList value
  least : -(2 ^ (63 : Nat)) ≤ value
  greatest : value < 2 ^ (63 : Nat)

/-- The digits of a text, behind its sign if it has one. -/
def digitsOf (chars : List Char) : List Char :=
  if chars.head? = some '-' ∨ chars.head? = some '+' then chars.drop 1 else chars

def signedValue (chars : List Char) : Int :=
  if chars.head? = some '-' then -(digitsValue (digitsOf chars) : Int)
  else digitsValue (digitsOf chars)

theorem writesInt_iff {chars : List Char} {value : Int} :
    WritesInt chars value ↔
      digitsOf chars ≠ [] ∧ (∀ c ∈ digitsOf chars, isDigit c = true) ∧ signedValue chars = value := by
  constructor
  · intro h
    cases h with
    | unsigned hdigits hall =>
        have hsign (c : Char) (hc : isDigit c = false) : chars.head? ≠ some c := by
          intro hhead
          have hdigit := hall c (List.mem_of_mem_head? hhead)
          rw [hc] at hdigit
          cases hdigit
        have hminus := hsign '-' (by decide)
        have hplus := hsign '+' (by decide)
        have hbody : digitsOf chars = chars := if_neg (not_or_intro hminus hplus)
        rw [signedValue, if_neg hminus, hbody]
        exact ⟨hdigits, hall, rfl⟩
    | plus hdigits hall => exact ⟨hdigits, hall, rfl⟩
    | minus hdigits hall => exact ⟨hdigits, hall, rfl⟩
  · rintro ⟨hdigits, hall, rfl⟩
    cases chars with
    | nil => exact absurd rfl hdigits
    | cons c rest =>
        by_cases hminus : c = '-'
        · subst hminus
          exact .minus hdigits hall
        · by_cases hplus : c = '+'
          · subst hplus
            exact .plus hdigits hall
          · have hbody : digitsOf (c :: rest) = c :: rest := if_neg (by simp [hminus, hplus])
            rw [signedValue, if_neg (by simp [hminus]), hbody]
            rw [hbody] at hdigits hall
            exact .unsigned hdigits hall

/-- A text is read exactly if it writes an integer of sixty-four bits. -/
theorem readInt64?_eq_some {text : String} {value : Int} :
    readInt64? text = some value ↔ WritesInt64 text value := by
  have hread : readInt64? text =
      if (digitsOf text.toList).isEmpty || !(digitsOf text.toList).all isDigit then none
      else if -(2 ^ (63 : Nat)) ≤ signedValue text.toList ∧ signedValue text.toList < 2 ^ (63 : Nat) then
        some (signedValue text.toList) else none := by
    rw [readInt64?, signedValue, digitsOf]
    simp only [decide_eq_true_eq]
  rw [hread, Option.ite_none_left_eq_some, Option.ite_none_right_eq_some, Option.some.injEq,
    Bool.or_eq_true, not_or, List.isEmpty_iff, Bool.not_eq_true', Bool.not_eq_false, List.all_eq_true]
  constructor
  · rintro ⟨⟨hdigits, hall⟩, ⟨hleast, hgreatest⟩, rfl⟩
    exact ⟨writesInt_iff.2 ⟨hdigits, hall, rfl⟩, hleast, hgreatest⟩
  · rintro ⟨hwrites, hleast, hgreatest⟩
    obtain ⟨hdigits, hall, rfl⟩ := writesInt_iff.1 hwrites
    exact ⟨⟨hdigits, hall⟩, ⟨hleast, hgreatest⟩, rfl⟩

theorem readInt64?_eq_none {text : String} :
    readInt64? text = none ↔ ∀ value, ¬WritesInt64 text value := by
  simp only [Option.eq_none_iff_forall_ne_some, ne_eq, readInt64?_eq_some]

end BenchReport.NumberText

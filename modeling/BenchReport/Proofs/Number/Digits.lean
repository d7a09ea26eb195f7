import BenchReport.Number.Reader
import BenchReport.Number.Text

/-!
# Digits

The digits of a number read back as the number. Zeros before them do not count, zeros behind them multiply by ten, and only the digits of zero start with one.
-/

namespace BenchReport.NumberText

-- Powers are those of the core library, whatever is in scope; literal exponents need their type for it.
attribute [local instance (high)] instPowNat

theorem isDigit_eq (c : Char) : isDigit c = c.isDigit := by
  simp [isDigit, Char.isDigit, Char.le_def]

theorem isDigit_of_mem_digits {n : Nat} {c : Char} (h : c ∈ digits n) : isDigit c = true := by
  rw [isDigit_eq]
  exact Nat.isDigit_of_mem_toDigits (by decide) (by decide) h

theorem isDigit_of_mem_zeros {count : Nat} {c : Char} (h : c ∈ zeros count) : isDigit c = true := by
  rw [List.eq_of_mem_replicate h]
  decide

theorem digits_ne_nil (n : Nat) : digits n ≠ [] := Nat.toDigits_ne_nil

theorem digits_eq (n : Nat) :
    digits n = if n < 10 then [n.digitChar] else digits (n / 10) ++ [(n % 10).digitChar] :=
  Nat.toDigits_eq_if (by decide)

theorem eq_zero_of_head?_digits {n : Nat} (h : (digits n).head? = some '0') : n = 0 := by
  induction n using Nat.strongRecOn with
  | ind n ih =>
      rw [digits_eq] at h
      split at h
      · rename_i hlt
        exact Nat.digitChar_eq_zero.1 (Option.some.inj h)
      · rename_i hle
        rw [List.head?_append] at h
        cases hhead : (digits (n / 10)).head? with
        | none => exact absurd (List.head?_eq_none_iff.1 hhead) (digits_ne_nil _)
        | some c =>
            rw [hhead, Option.some_or, ← hhead] at h
            have := ih (n / 10) (by omega) h
            omega

/-! ### Their value -/

theorem digitsValue_digits (n : Nat) : digitsValue (digits n) = n :=
  Nat.ofDigitChars_ten_toDigits

theorem digitsValue_zeros_append (count : Nat) (text : List Char) :
    digitsValue (zeros count ++ text) = digitsValue text := by
  rw [digitsValue, zeros, Nat.ofDigitChars_append, Nat.ofDigitChars_replicate_zero, Nat.mul_zero,
    digitsValue]

theorem digitsValue_append_zeros (text : List Char) (count : Nat) :
    digitsValue (text ++ zeros count) = digitsValue text * 10 ^ count := by
  rw [digitsValue, zeros, Nat.ofDigitChars_append, Nat.ofDigitChars_replicate_zero, Nat.mul_comm,
    digitsValue]

theorem digitsValue_lt {text : List Char} (h : ∀ c ∈ text, isDigit c = true) :
    digitsValue text < 10 ^ text.length := by
  induction text with
  | nil => exact Nat.one_pos
  | cons c rest ih =>
      have hdigit : 48 ≤ c.toNat ∧ c.toNat ≤ 57 := by
        have := h c List.mem_cons_self
        rw [isDigit, Bool.and_eq_true, decide_eq_true_eq, decide_eq_true_eq] at this
        exact this
      have hrest := ih fun c hc => h c (List.mem_cons_of_mem _ hc)
      calc digitsValue (c :: rest)
          = 10 ^ rest.length * (c.toNat - 48) + digitsValue rest := by
            rw [digitsValue, Nat.ofDigitChars_cons, Nat.ofDigitChars_eq_ofDigitChars_zero,
              Nat.mul_zero, Nat.zero_add, digitsValue]
            rfl
        _ < 10 ^ rest.length * (c.toNat - 48) + 10 ^ rest.length := Nat.add_lt_add_left hrest _
        _ = 10 ^ rest.length * (c.toNat - 48 + 1) := (Nat.mul_succ _ _).symm
        _ ≤ 10 ^ rest.length * 10 := Nat.mul_le_mul_left _ (by omega)
        _ = 10 ^ (c :: rest).length := rfl

/-! ### Where they end -/

section Run

variable {digit : Char → Bool} {run rest : List Char} (hrun : ∀ c ∈ run, digit c = true)
  (hrest : ∀ c ∈ rest.head?, digit c = false)
include hrun hrest

theorem takeWhile_run : (run ++ rest).takeWhile digit = run := by
  rw [List.takeWhile_append_of_pos hrun]
  cases rest with
  | nil => rw [List.takeWhile_nil, List.append_nil]
  | cons c rest => rw [List.takeWhile_cons_of_neg (by simp [hrest c rfl]), List.append_nil]

theorem dropWhile_run : (run ++ rest).dropWhile digit = rest := by
  rw [List.dropWhile_append_of_pos hrun]
  cases rest with
  | nil => rfl
  | cons c rest => rw [List.dropWhile_cons_of_neg (by simp [hrest c rfl])]

end Run

end BenchReport.NumberText

import BenchReport.Json.Printer
import BenchReport.Json.Reader

/-!
# Strings in documents

Every text reads back from its string: a character stands for itself unless it is a quote, a backslash or a control character, and each escape of these is read as the character that it is for.
-/

namespace BenchReport.Json

/-- The escape of a control character without a letter of its own. -/
theorem hexUnit?_hexDigit {unit : Nat} (h : unit < 0x20) :
    hexUnit? '0' '0' (hexDigit (unit / 16)) (hexDigit unit) = some unit := by
  revert unit
  decide

theorem readChars?_control {c : Char} (h : c.toNat < 0x20) (rest : List Char) :
    readChars? ('\\' :: 'u' :: '0' :: '0' :: hexDigit (c.toNat / 16) :: hexDigit c.toNat :: rest) =
      (readChars? rest).map fun read => (c :: read.1, read.2) := by
  have hlow : isLowSurrogate c.toNat = false := by
    rw [isLowSurrogate, Bool.and_eq_false_iff, decide_eq_false_iff_not]
    exact .inl (by omega)
  have hhigh : isHighSurrogate c.toNat = false := by
    rw [isHighSurrogate, Bool.and_eq_false_iff, decide_eq_false_iff_not]
    exact .inl (by omega)
  rw [readChars?, hexUnit?_hexDigit h]
  simp only [hlow, hhigh, Bool.false_eq_true, if_false, Char.ofNat_toNat]

theorem readChars?_plain {c : Char} (hquote : c ≠ '"') (hbackslash : c ≠ '\\')
    (h : ¬c.toNat < 0x20) (rest : List Char) :
    readChars? (c :: rest) = (readChars? rest).map fun read => (c :: read.1, read.2) := by
  rw [readChars?.eq_def]
  split
  · rename_i heq
    cases heq
    exact absurd rfl hquote
  · rename_i heq
    cases heq
    exact absurd rfl hbackslash
  · rename_i heq
    cases heq
    exact absurd rfl hbackslash
  · rename_i heq
    cases heq
    rw [if_neg h]
  · rename_i heq
    cases heq

theorem readChars?_escapeChar (c : Char) (rest : List Char) :
    readChars? (escapeChar c ++ rest) =
      (readChars? rest).map fun read => (c :: read.1, read.2) := by
  fun_cases escapeChar c with
  | case8 _ h =>
      rw [if_pos h]
      exact readChars?_control h rest
  | case9 _ h hquote hbackslash =>
      rw [if_neg h]
      exact readChars?_plain hquote hbackslash h rest
  | _ => rfl

/-- A text reads back from its string. -/
theorem readChars?_escaped (text rest : List Char) :
    readChars? (text.flatMap escapeChar ++ '"' :: rest) = some (text, rest) := by
  induction text with
  | nil => rfl
  | cons c text ih =>
      rw [List.flatMap_cons, List.append_assoc, readChars?_escapeChar, ih]
      rfl

end BenchReport.Json

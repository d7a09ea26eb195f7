import BenchReport.Proofs.Number.Digits
import BenchReport.Proofs.Text.Blank
import BenchReport.Source.RunLog
import Mathlib.Data.List.TakeWhile

/-!
# Elapsed times

An elapsed time is seconds, with a fraction or without, after minutes and a colon or without. It is read off the beginning of a field: the longest beginning of that form is the time, and what comes after it is dropped. So every field that is such a time is accepted with its value, and the fields that are accepted beyond these are those with something left over.
-/

namespace BenchReport.RunLog

-- Powers are those of the core library, whatever is in scope; literal exponents need their type for it.
attribute [local instance (high)] instPowNat

open NumberText Text

/-! ### Runs of digits -/

/-- At least one character, each of a class. -/
structure Run (digit : Char → Bool) (run : List Char) : Prop where
  nonempty : run ≠ []
  all : ∀ c ∈ run, digit c = true

theorem isDecimalDigit_of_isDigit {c : Char} (h : isDigit c = true) : isDecimalDigit c = true := by
  have hcode : 48 ≤ c.toNat ∧ c.toNat ≤ 57 := by
    rw [isDigit, Bool.and_eq_true, decide_eq_true_eq, decide_eq_true_eq] at h
    exact h
  rw [isDecimalDigit, digitRanges, inRanges, if_neg (by omega)]
  exact decide_eq_true hcode.1

theorem Run.decimal {run : List Char} (h : Run isDigit run) : Run isDecimalDigit run :=
  ⟨h.nonempty, fun c hc => isDecimalDigit_of_isDigit (h.all c hc)⟩

theorem forall_head?_cons {digit : Char → Bool} {c : Char} (h : digit c = false) (rest : List Char) :
    ∀ x ∈ (c :: rest).head?, digit x = false := by
  rintro x ⟨⟩
  exact h

/-- Every text is its longest run of digits, possibly none, and what comes after it. -/
theorem exists_digits (chars : List Char) :
    ∃ run rest, (∀ c ∈ run, isDecimalDigit c = true) ∧
      (∀ c ∈ rest.head?, isDecimalDigit c = false) ∧ chars = run ++ rest :=
  ⟨_, _, fun _ => List.mem_takeWhile_imp, head?_dropWhile, (List.takeWhile_append_dropWhile).symm⟩

/-! ### Numbers -/

/-- The digits of a number before its point and, if it has a point, after it. -/
structure Parts where
  whole : List Char
  fraction : Option (List Char)

namespace Parts

def text (parts : Parts) : List Char :=
  match parts.fraction with
  | none => parts.whole
  | some fraction => parts.whole ++ '.' :: fraction

def decimal (parts : Parts) : Decimal := decimalOf parts.whole (parts.fraction.getD []) 0

structure Digits (digit : Char → Bool) (parts : Parts) : Prop where
  whole : Run digit parts.whole
  fraction : ∀ fraction ∈ parts.fraction, Run digit fraction

/-- What follows a number and does not make it longer. -/
structure EndsBefore (parts : Parts) (rest : List Char) : Prop where
  digit : ∀ c ∈ rest.head?, isDecimalDigit c = false
  point : parts.fraction = none → ∀ c tail, rest = '.' :: c :: tail → isDecimalDigit c = false

end Parts

section LeadingNumber

variable {whole : List Char} (hwhole : ∀ c ∈ whole, isDecimalDigit c = true)
include hwhole

theorem leadingNumber_point (tail : List Char) :
    leadingNumber (whole ++ '.' :: tail) =
      if whole.isEmpty || (tail.takeWhile isDecimalDigit).isEmpty then whole
      else whole ++ '.' :: tail.takeWhile isDecimalDigit := by
  have hpoint : ∀ c ∈ ('.' :: tail).head?, isDecimalDigit c = false :=
    forall_head?_cons (by decide) tail
  rw [leadingNumber, takeWhile_run hwhole hpoint, dropWhile_run hwhole hpoint]
  rfl

theorem leadingNumber_plain {rest : List Char} (hrest : ∀ c ∈ rest.head?, isDecimalDigit c = false)
    (hpoint : ∀ tail, rest ≠ '.' :: tail) : leadingNumber (whole ++ rest) = whole := by
  rw [leadingNumber, takeWhile_run hwhole hrest, dropWhile_run hwhole hrest]
  split
  · exact absurd rfl (hpoint _)
  · rfl

end LeadingNumber

/-- A number is read as far as it goes. -/
theorem leadingNumber_text {parts : Parts} {rest : List Char} (hdigits : parts.Digits isDecimalDigit)
    (hends : parts.EndsBefore rest) : leadingNumber (parts.text ++ rest) = parts.text := by
  obtain ⟨whole, fraction⟩ := parts
  obtain ⟨hwhole, hfraction⟩ := hdigits
  cases fraction with
  | none =>
      show leadingNumber (whole ++ rest) = whole
      by_cases hpoint : ∃ tail, rest = '.' :: tail
      · obtain ⟨tail, rfl⟩ := hpoint
        have hnone : tail.takeWhile isDecimalDigit = [] := by
          cases tail with
          | nil => rfl
          | cons c tail => rw [List.takeWhile_cons_of_neg (by simp [hends.point rfl c tail rfl])]
        rw [leadingNumber_point hwhole.all, hnone, List.isEmpty_nil, Bool.or_true, if_pos rfl]
      · exact leadingNumber_plain hwhole.all hends.digit fun tail h => hpoint ⟨tail, h⟩
  | some fraction =>
      have hfraction := hfraction fraction rfl
      show leadingNumber (whole ++ '.' :: fraction ++ rest) = whole ++ '.' :: fraction
      rw [List.append_assoc, List.cons_append, leadingNumber_point hwhole.all,
        takeWhile_run hfraction.all hends.digit, if_neg]
      simp [hwhole.nonempty, hfraction.nonempty]

/-- What is read is a number, and nothing after it makes it longer. -/
theorem exists_of_leadingNumber {chars : List Char} (h : leadingNumber chars ≠ []) :
    ∃ (parts : Parts) (rest : List Char), parts.Digits isDecimalDigit ∧ parts.EndsBefore rest ∧
      chars = parts.text ++ rest ∧ leadingNumber chars = parts.text := by
  obtain ⟨whole, rest, hwhole, hrest, rfl⟩ := exists_digits chars
  by_cases hpoint : ∃ tail, rest = '.' :: tail
  · obtain ⟨tail, rfl⟩ := hpoint
    rw [leadingNumber_point hwhole] at h ⊢
    by_cases hfraction : tail.takeWhile isDecimalDigit = []
    · rw [hfraction, List.isEmpty_nil, Bool.or_true, if_pos rfl] at h ⊢
      refine ⟨⟨whole, none⟩, '.' :: tail, ⟨⟨h, hwhole⟩, nofun⟩, ⟨hrest, ?_⟩, rfl, rfl⟩
      rintro - c after ⟨⟩
      by_contra hdigit
      rw [Bool.not_eq_false] at hdigit
      rw [List.takeWhile_cons_of_pos hdigit] at hfraction
      exact absurd hfraction (List.cons_ne_nil _ _)
    · have hnonempty : whole ≠ [] := by
        rintro rfl
        exact h rfl
      rw [if_neg (by simp [hnonempty, hfraction])]
      refine ⟨⟨whole, some (tail.takeWhile isDecimalDigit)⟩, tail.dropWhile isDecimalDigit,
        ⟨⟨hnonempty, hwhole⟩, ?_⟩, ⟨head?_dropWhile, nofun⟩, ?_, rfl⟩
      · rintro fraction ⟨⟩
        exact ⟨hfraction, fun c => List.mem_takeWhile_imp⟩
      · rw [Parts.text, List.append_assoc, List.cons_append, List.takeWhile_append_dropWhile]
  · have hpoint : ∀ tail, rest ≠ '.' :: tail := fun tail h => hpoint ⟨tail, h⟩
    rw [leadingNumber_plain hwhole hrest hpoint] at h ⊢
    exact ⟨⟨whole, none⟩, rest, ⟨⟨h, hwhole⟩, nofun⟩,
      ⟨hrest, fun _ c tail h => absurd h (hpoint _)⟩, rfl, rfl⟩

theorem leadingNumber_ne_nil {c : Char} (h : isDecimalDigit c = true) (tail : List Char) :
    leadingNumber (c :: tail) ≠ [] := by
  rw [leadingNumber, List.takeWhile_cons_of_pos h]
  split
  · dsimp only
    split <;> exact List.cons_ne_nil _ _
  · exact List.cons_ne_nil _ _

theorem leadingNumber_eq_nil {chars : List Char} (h : ∀ c ∈ chars.head?, isDecimalDigit c = false) :
    leadingNumber chars = [] := by
  cases chars with
  | nil => rfl
  | cons c tail =>
      rw [leadingNumber, List.takeWhile_cons_of_neg (by simp [h c rfl])]
      split <;> rfl

/-! ### Decimals -/

theorem readDecimal?_append {whole rest : List Char} (hwhole : ∀ c ∈ whole, isDigit c = true)
    (hrest : ∀ c ∈ rest.head?, isDigit c = false) :
    readDecimal? (whole ++ rest) =
      if whole.isEmpty && (readFraction rest).1.isEmpty then none
      else (readExponent? (readFraction rest).2).map (decimalOf whole (readFraction rest).1) := by
  rw [readDecimal?, takeWhile_run hwhole hrest, dropWhile_run hwhole hrest]

theorem readFraction_point {fraction rest : List Char} (hfraction : ∀ c ∈ fraction, isDigit c = true)
    (hrest : ∀ c ∈ rest.head?, isDigit c = false) :
    readFraction ('.' :: (fraction ++ rest)) = (fraction, rest) := by
  rw [readFraction, takeWhile_run hfraction hrest, dropWhile_run hfraction hrest]

theorem not_isDigit_point (tail : List Char) : ∀ c ∈ ('.' :: tail).head?, isDigit c = false :=
  forall_head?_cons (by decide) tail

theorem not_isDigit_nil : ∀ c ∈ ([] : List Char).head?, isDigit c = false := nofun

theorem readDecimal?_text {parts : Parts} (h : parts.Digits isDigit) :
    readDecimal? parts.text = some parts.decimal := by
  obtain ⟨whole, fraction⟩ := parts
  obtain ⟨hwhole, hfraction⟩ := h
  cases fraction with
  | none =>
      have hread := readDecimal?_append hwhole.all not_isDigit_nil
      rw [if_neg (by simp [hwhole.nonempty]), List.append_nil] at hread
      exact hread
  | some fraction =>
      have hread := readDecimal?_append hwhole.all (not_isDigit_point (fraction ++ []))
      rw [readFraction_point (hfraction fraction rfl).all not_isDigit_nil,
        if_neg (by simp [hwhole.nonempty]), List.append_nil] at hread
      exact hread

section Stray

variable {c : Char} (hdecimal : isDecimalDigit c = true) (hstray : isDigit c = false)
include hdecimal

/-- No exponent starts with a digit. -/
theorem readExponent?_digit (rest : List Char) : readExponent? (c :: rest) = none := by
  have hmark : ¬(c = 'e' ∨ c = 'E') := by
    rintro (rfl | rfl) <;> exact absurd hdecimal (by decide)
  rw [readExponent?]
  exact if_neg hmark

include hstray

theorem readDecimal?_stray_whole {front : List Char} (hfront : ∀ c ∈ front, isDigit c = true)
    (rest : List Char) : readDecimal? (front ++ c :: rest) = none := by
  have hhead : ∀ x ∈ (c :: rest).head?, isDigit x = false := forall_head?_cons hstray rest
  have hfraction : readFraction (c :: rest) = ([], c :: rest) := by
    rw [readFraction]
    rintro rest ⟨⟩
    exact absurd hdecimal (by decide)
  rw [readDecimal?_append hfront hhead, hfraction, readExponent?_digit hdecimal, Option.map_none,
    ite_self]

theorem readDecimal?_stray_fraction {whole front : List Char}
    (hwhole : ∀ c ∈ whole, isDigit c = true) (hfront : ∀ c ∈ front, isDigit c = true)
    (rest : List Char) : readDecimal? (whole ++ '.' :: (front ++ c :: rest)) = none := by
  have hhead : ∀ x ∈ (c :: rest).head?, isDigit x = false := forall_head?_cons hstray rest
  rw [readDecimal?_append hwhole (not_isDigit_point _), readFraction_point hfront hhead,
    readExponent?_digit hdecimal, Option.map_none, ite_self]

end Stray

/-- A run of decimal digits is one of ASCII, or it has a first digit that is not. -/
theorem Run.isDigit_or_stray {run : List Char} (h : Run isDecimalDigit run) :
    Run isDigit run ∨ ∃ (front : List Char) (c : Char) (tail : List Char),
      (∀ c ∈ front, isDigit c = true) ∧ isDecimalDigit c = true ∧ isDigit c = false ∧
        run = front ++ c :: tail := by
  cases htail : run.dropWhile isDigit with
  | nil => exact .inl ⟨h.nonempty, List.dropWhile_eq_nil_iff.1 htail⟩
  | cons c tail =>
      have hrun : run = run.takeWhile isDigit ++ c :: tail := by
        rw [← htail, List.takeWhile_append_dropWhile]
      have hstray : isDigit c = false := by
        apply @head?_dropWhile isDigit run
        rw [htail]
        rfl
      refine .inr ⟨run.takeWhile isDigit, c, tail, fun c => List.mem_takeWhile_imp, ?_, hstray, hrun⟩
      apply h.all
      rw [hrun]
      simp

/-- Only digits of ASCII are read as a decimal. -/
theorem digits_of_readDecimal? {parts : Parts} (hdigits : parts.Digits isDecimalDigit) {d : Decimal}
    (h : readDecimal? parts.text = some d) : parts.Digits isDigit := by
  obtain ⟨whole, fraction⟩ := parts
  obtain ⟨hwhole, hfraction⟩ := hdigits
  have hafter : ∃ after, Parts.text ⟨whole, fraction⟩ = whole ++ after := by
    cases fraction with
    | none => exact ⟨[], (List.append_nil whole).symm⟩
    | some fraction => exact ⟨'.' :: fraction, rfl⟩
  obtain ⟨after, hafter⟩ := hafter
  have hascii : Run isDigit whole := by
    rcases hwhole.isDigit_or_stray with hrun | ⟨front, c, tail, hfront, hdecimal, hstray, hrun⟩
    · exact hrun
    · dsimp only at hrun
      rw [hafter, hrun, List.append_assoc, List.cons_append,
        readDecimal?_stray_whole hdecimal hstray hfront] at h
      cases h
  refine ⟨hascii, ?_⟩
  rintro digits ⟨⟩
  rcases (hfraction digits rfl).isDigit_or_stray with
    hrun | ⟨front, c, tail, hfront, hdecimal, hstray, hrun⟩
  · exact hrun
  · rw [Parts.text, hrun, readDecimal?_stray_fraction hdecimal hstray hascii.all hfront] at h
    cases h

/-! ### Times -/

/-- The parts of an elapsed time: the digits of its minutes, if it has minutes, and its seconds. -/
structure Reading where
  minutes : Option (List Char)
  seconds : Parts

namespace Reading

def text (reading : Reading) : List Char :=
  match reading.minutes with
  | none => reading.seconds.text
  | some minutes => minutes ++ ':' :: reading.seconds.text

/-- Sixty times the minutes and the seconds. -/
def value (reading : Reading) : Float :=
  Binary64.ofInt ((reading.minutes.map digitsValue).getD 0) * 60 + reading.seconds.decimal.toFloat false

structure Digits (digit : Char → Bool) (reading : Reading) : Prop where
  minutes : ∀ minutes ∈ reading.minutes, Run digit minutes
  seconds : reading.seconds.Digits digit

/-- A time in digits of ASCII whose minutes are a number of at most sixty-four bits. -/
structure WellFormed (reading : Reading) : Prop where
  digits : reading.Digits isDigit
  limit : ∀ minutes ∈ reading.minutes, digitsValue minutes < 2 ^ (64 : Nat)

/-- What follows a time and does not make it longer or give it minutes. -/
structure EndsBefore (reading : Reading) (rest : List Char) : Prop where
  seconds : reading.seconds.EndsBefore rest
  colon : reading.minutes = none → reading.seconds.fraction = none →
    ∀ c tail, rest = ':' :: c :: tail → isDecimalDigit c = false

end Reading

section Split

variable {run : List Char} (hrun : ∀ c ∈ run, isDecimalDigit c = true)
include hrun

theorem splitElapsed_colon (after : List Char) :
    splitElapsed (run ++ ':' :: after) =
      if (leadingNumber after).isEmpty || run.isEmpty then (none, run)
      else (some run, leadingNumber after) := by
  have hcolon : ∀ c ∈ (':' :: after).head?, isDecimalDigit c = false :=
    forall_head?_cons (by decide) after
  rw [splitElapsed, dropWhile_run hrun hcolon, takeWhile_run hrun hcolon,
    leadingNumber_plain hrun hcolon nofun]
  rfl

theorem splitElapsed_plain {rest : List Char} (hrest : ∀ c ∈ rest.head?, isDecimalDigit c = false)
    (hcolon : ∀ tail, rest ≠ ':' :: tail) :
    splitElapsed (run ++ rest) = (none, leadingNumber (run ++ rest)) := by
  rw [splitElapsed, dropWhile_run hrun hrest]
  split
  · exact absurd rfl (hcolon _)
  · rfl

end Split

theorem Parts.Digits.text_ne_nil {digit : Char → Bool} {parts : Parts} (h : parts.Digits digit) :
    parts.text ≠ [] := by
  obtain ⟨whole, fraction⟩ := parts
  have hwhole := h.whole.nonempty
  cases fraction with
  | none => exact hwhole
  | some fraction => exact List.append_ne_nil_of_left_ne_nil hwhole _

/-- Seconds without minutes are all of what is split. -/
theorem splitElapsed_seconds {seconds : Parts} {rest : List Char}
    (hdigits : seconds.Digits isDecimalDigit) (hends : seconds.EndsBefore rest)
    (hcolon : seconds.fraction = none →
      ∀ c tail, rest = ':' :: c :: tail → isDecimalDigit c = false) :
    splitElapsed (seconds.text ++ rest) = (none, seconds.text) := by
  have hnumber := leadingNumber_text hdigits hends
  have hrun := hdigits.whole.all
  obtain ⟨whole, fraction⟩ := seconds
  cases fraction with
  | none =>
      by_cases hafter : ∃ after, rest = ':' :: after
      · obtain ⟨after, rfl⟩ := hafter
        have hnone : leadingNumber after = [] := by
          apply leadingNumber_eq_nil
          intro c hc
          obtain ⟨tail, rfl⟩ := List.head?_eq_some_iff.1 hc
          exact hcolon rfl c tail rfl
        show splitElapsed (whole ++ ':' :: after) = (none, whole)
        rw [splitElapsed_colon hrun, hnone, List.isEmpty_nil, Bool.true_or, if_pos rfl]
      · show splitElapsed (whole ++ rest) = _
        rw [splitElapsed_plain hrun hends.digit fun after h => hafter ⟨after, h⟩]
        exact congrArg _ hnumber
  | some fraction =>
      have hpoint : ∀ c ∈ ('.' :: (fraction ++ rest)).head?, isDecimalDigit c = false :=
        forall_head?_cons (by decide) (fraction ++ rest)
      have htext : Parts.text ⟨whole, some fraction⟩ ++ rest = whole ++ '.' :: (fraction ++ rest) := by
        rw [Parts.text, List.append_assoc, List.cons_append]
      rw [htext, splitElapsed_plain hrun hpoint nofun, ← htext]
      exact congrArg _ hnumber

/-- A time is split where it has a colon. -/
theorem splitElapsed_text {reading : Reading} {rest : List Char}
    (hdigits : reading.Digits isDecimalDigit) (hends : reading.EndsBefore rest) :
    splitElapsed (reading.text ++ rest) = (reading.minutes, reading.seconds.text) := by
  obtain ⟨minutes, seconds⟩ := reading
  obtain ⟨hminutes, hseconds⟩ := hdigits
  obtain ⟨hends, hcolon⟩ := hends
  cases minutes with
  | none => exact splitElapsed_seconds hseconds hends (hcolon rfl)
  | some minutes =>
      have hminutes := hminutes minutes rfl
      show splitElapsed (minutes ++ ':' :: seconds.text ++ rest) = _
      rw [List.append_assoc, List.cons_append, splitElapsed_colon hminutes.all,
        leadingNumber_text hseconds hends, if_neg]
      simp [hseconds.text_ne_nil, hminutes.nonempty]

/-- What a field is split into is a time at its beginning. -/
theorem exists_of_splitElapsed {chars : List Char} (h : (splitElapsed chars).2 ≠ []) :
    ∃ (reading : Reading) (rest : List Char), reading.Digits isDecimalDigit ∧
      reading.EndsBefore rest ∧ chars = reading.text ++ rest := by
  obtain ⟨run, rest, hrun, hrest, rfl⟩ := exists_digits chars
  by_cases hafter : ∃ after, rest = ':' :: after
  · obtain ⟨after, rfl⟩ := hafter
    rw [splitElapsed_colon hrun] at h
    have hnonempty : run ≠ [] := by
      rintro rfl
      rw [List.isEmpty_nil, Bool.or_true, if_pos rfl] at h
      exact h rfl
    by_cases hseconds : leadingNumber after = []
    · refine ⟨⟨none, run, none⟩, ':' :: after, ⟨nofun, ⟨hnonempty, hrun⟩, nofun⟩,
        ⟨⟨hrest, nofun⟩, ?_⟩, rfl⟩
      rintro - - c tail ⟨⟩
      by_contra hdigit
      rw [Bool.not_eq_false] at hdigit
      exact leadingNumber_ne_nil hdigit tail hseconds
    · obtain ⟨parts, rest, hdigits, hends, rfl, _⟩ := exists_of_leadingNumber hseconds
      refine ⟨⟨some run, parts⟩, rest, ⟨?_, hdigits⟩, ⟨hends, nofun⟩, ?_⟩
      · rintro minutes ⟨⟩
        exact ⟨hnonempty, hrun⟩
      · rw [Reading.text, List.append_assoc, List.cons_append]
  · have hcolon : ∀ after, rest ≠ ':' :: after := fun after h => hafter ⟨after, h⟩
    rw [splitElapsed_plain hrun hrest hcolon] at h
    obtain ⟨parts, tail, hdigits, hends, htext, _⟩ := exists_of_leadingNumber h
    refine ⟨⟨none, parts⟩, tail, ⟨nofun, hdigits⟩, ⟨hends, ?_⟩, htext⟩
    rintro - hfraction c after rfl
    -- Without a fraction the run of digits is all of the number, so the colon follows the run.
    obtain ⟨whole, fraction⟩ := parts
    obtain rfl : fraction = none := hfraction
    have hhead : ∀ x ∈ (':' :: c :: after).head?, isDecimalDigit x = false :=
      forall_head?_cons (by decide) (c :: after)
    have hdrop := congrArg (List.dropWhile isDecimalDigit) htext
    rw [dropWhile_run hrun hrest] at hdrop
    exact absurd (hdrop.trans (dropWhile_run hdigits.whole.all hhead)) (hcolon _)

/-! ### Fields -/

/-- A field starts with a time, and nothing that follows makes it longer. -/
structure Reads (chars : List Char) (reading : Reading) (rest : List Char) : Prop where
  wellFormed : reading.WellFormed
  ends : reading.EndsBefore rest
  text : chars = reading.text ++ rest

theorem Reading.WellFormed.decimal {reading : Reading} (h : reading.WellFormed) :
    reading.Digits isDecimalDigit := by
  refine ⟨fun minutes hminutes => (h.digits.minutes minutes hminutes).decimal, ?_, ?_⟩
  · exact h.digits.seconds.whole.decimal
  · exact fun fraction hfraction => (h.digits.seconds.fraction fraction hfraction).decimal

/-- A field starts with one time only. -/
theorem Reads.eq {chars rest rest' : List Char} {reading reading' : Reading}
    (h : Reads chars reading rest) (h' : Reads chars reading' rest') :
    reading.text = reading'.text ∧ rest = rest' := by
  have hsplit := splitElapsed_text h.wellFormed.decimal h.ends
  have hsplit' := splitElapsed_text h'.wellFormed.decimal h'.ends
  rw [← h.text] at hsplit
  rw [← h'.text, hsplit, Prod.mk.injEq] at hsplit'
  have htext : reading.text = reading'.text := by
    rw [Reading.text, Reading.text, hsplit'.1, hsplit'.2]
  refine ⟨htext, ?_⟩
  have hchars := h.text.symm.trans h'.text
  rw [htext] at hchars
  exact List.append_cancel_left hchars

theorem readNat?_eq_some {limit value : Nat} {digits : List Char} :
    readNat? limit (String.ofList digits) = some value ↔
      Run isDigit digits ∧ digitsValue digits < limit ∧ digitsValue digits = value := by
  rw [readNat?]
  simp only [String.toList_ofList, Bool.and_eq_true, Bool.not_eq_true', List.isEmpty_eq_false_iff,
    List.all_eq_true, decide_eq_true_eq, Option.ite_none_right_eq_some, Option.some.injEq]
  constructor
  · rintro ⟨⟨⟨hnonempty, hall⟩, hlimit⟩, hvalue⟩
    exact ⟨⟨hnonempty, hall⟩, hlimit, hvalue⟩
  · rintro ⟨⟨hnonempty, hall⟩, hlimit, hvalue⟩
    exact ⟨⟨⟨hnonempty, hall⟩, hlimit⟩, hvalue⟩

/-- The minutes of a field, zero if it has none. -/
def minutesOf? : Option (List Char) → Option Nat
  | none => some 0
  | some digits => readNat? (2 ^ (64 : Nat)) (String.ofList digits)

theorem elapsedSeconds?_eq (field : String) :
    elapsedSeconds? field =
      (minutesOf? (splitElapsed (trimChars field.toList)).1).bind fun minutes =>
        (readDecimal? (splitElapsed (trimChars field.toList)).2).bind fun seconds =>
          some (Binary64.ofInt minutes * 60 + seconds.toFloat false) := by
  rw [elapsedSeconds?]
  obtain ⟨minutes, seconds⟩ := splitElapsed (trimChars field.toList)
  cases minutes <;> rfl

theorem elapsedSeconds?_of_reads {field : String} {reading : Reading} {rest : List Char}
    (h : Reads (trimChars field.toList) reading rest) :
    elapsedSeconds? field = some reading.value := by
  have hminutes : minutesOf? reading.minutes = some ((reading.minutes.map digitsValue).getD 0) := by
    cases hminutes : reading.minutes with
    | none => rfl
    | some digits =>
        have hdigits := h.wellFormed.digits.minutes digits hminutes
        exact readNat?_eq_some.2 ⟨hdigits, h.wellFormed.limit digits hminutes, rfl⟩
  rw [elapsedSeconds?_eq, h.text, splitElapsed_text h.wellFormed.decimal h.ends, hminutes,
    readDecimal?_text h.wellFormed.digits.seconds]
  rfl

theorem exists_reads_of_elapsedSeconds? {field : String} {seconds : Float}
    (h : elapsedSeconds? field = some seconds) :
    ∃ reading rest, Reads (trimChars field.toList) reading rest := by
  rw [elapsedSeconds?_eq] at h
  generalize trimChars field.toList = chars at h ⊢
  obtain ⟨minutes, hminutes, hbind⟩ := Option.bind_eq_some_iff.1 h
  obtain ⟨decimal, hdecimal, _⟩ := Option.bind_eq_some_iff.1 hbind
  have hnonempty : (splitElapsed chars).2 ≠ [] := by
    intro hnil
    rw [hnil] at hdecimal
    cases hdecimal
  obtain ⟨reading, rest, hdigits, hends, rfl⟩ := exists_of_splitElapsed hnonempty
  rw [splitElapsed_text hdigits hends] at hminutes hdecimal
  have hread : ∀ digits ∈ reading.minutes, Run isDigit digits ∧ digitsValue digits < 2 ^ (64 : Nat) := by
    intro digits hsome
    rw [hsome] at hminutes
    obtain ⟨hrun, hlimit, _⟩ := readNat?_eq_some.1 hminutes
    exact ⟨hrun, hlimit⟩
  exact ⟨reading, rest, ⟨⟨fun digits hsome => (hread digits hsome).1,
    digits_of_readDecimal? hdigits.seconds hdecimal⟩, fun digits hsome => (hread digits hsome).2⟩,
    hends, rfl⟩

/-- What is accepted is a field that starts with a time, and the time's value is what is read. -/
theorem elapsedSeconds?_eq_some {field : String} {seconds : Float} :
    elapsedSeconds? field = some seconds ↔
      ∃ reading rest, Reads (trimChars field.toList) reading rest ∧ reading.value = seconds := by
  constructor
  · intro h
    obtain ⟨reading, rest, hreads⟩ := exists_reads_of_elapsedSeconds? h
    rw [elapsedSeconds?_of_reads hreads, Option.some.injEq] at h
    exact ⟨reading, rest, hreads, h⟩
  · rintro ⟨reading, rest, hreads, rfl⟩
    exact elapsedSeconds?_of_reads hreads

/-- Nothing follows a time that is the whole of a field. -/
theorem reads_of_text {chars : List Char} {reading : Reading} (hwellFormed : reading.WellFormed)
    (htext : chars = reading.text) : Reads chars reading [] :=
  ⟨hwellFormed, ⟨⟨nofun, nofun⟩, nofun⟩, by rw [htext, List.append_nil]⟩

/-- A field is accepted exactly if it starts with a time, and gives the value of the longest one. Whether it is a time as a whole decides exactly at the fields that have nothing left over. -/
theorem elapsed_accepted_iff (field : String) :
    (∀ seconds, elapsedSeconds? field = some seconds ↔
      ∃ reading rest, Reads (trimChars field.toList) reading rest ∧ reading.value = seconds) ∧
    ((∀ seconds, elapsedSeconds? field = some seconds ↔
        ∃ reading : Reading, reading.WellFormed ∧ trimChars field.toList = reading.text ∧
          reading.value = seconds) ↔
      ∀ reading rest, Reads (trimChars field.toList) reading rest → rest = []) := by
  refine ⟨fun seconds => elapsedSeconds?_eq_some, ?_, ?_⟩
  · intro h reading rest hreads
    obtain ⟨whole, hwellFormed, htext, _⟩ := (h _).1 (elapsedSeconds?_of_reads hreads)
    exact (hreads.eq (reads_of_text hwellFormed htext)).2
  · intro h seconds
    rw [elapsedSeconds?_eq_some]
    constructor
    · rintro ⟨reading, rest, hreads, hvalue⟩
      refine ⟨reading, hreads.wellFormed, ?_, hvalue⟩
      rw [hreads.text, h reading rest hreads, List.append_nil]
    · rintro ⟨reading, hwellFormed, htext, hvalue⟩
      exact ⟨reading, [], reads_of_text hwellFormed htext, hvalue⟩

/-! #### Hours -/

/-- Of hours, minutes and seconds the first two are taken for minutes and seconds; the rest of the field is dropped, and the line counts as a run. -/
theorem accepted_hours :
    elapsedSeconds? "1:02:03" = some 62 ∧
    (¬∃ reading : Reading, reading.WellFormed ∧ trimChars "1:02:03".toList = reading.text) ∧
    (parse "g mi 1:02:03 0 0 0\n").runs.map LoggedRun.elapsed = [62] ∧
    (parse "g mi 1:02:03 0 0 0\n").skipped = 0 := by
  have hreads : Reads (trimChars "1:02:03".toList) ⟨some ['1'], ['0', '2'], none⟩ [':', '0', '3'] := by
    refine ⟨⟨⟨?_, ⟨nofun, List.all_eq_true.1 rfl⟩, nofun⟩, ?_⟩, ⟨⟨?_, nofun⟩, nofun⟩, by decide⟩
    · rintro digits ⟨⟩
      exact ⟨nofun, List.all_eq_true.1 rfl⟩
    · rintro digits ⟨⟩
      decide
    · rintro c ⟨⟩
      decide
  refine ⟨by decide +kernel, ?_, by decide +kernel, by decide +kernel⟩
  rintro ⟨whole, hwellFormed, htext⟩
  exact absurd (hreads.eq (reads_of_text hwellFormed htext)).2 (List.cons_ne_nil _ _)

end BenchReport.RunLog

import BenchReport.Proofs.Number.Arithmetic
import BenchReport.Proofs.Number.Decimal
import BenchReport.Proofs.Results.Snapshot
import BenchReport.Proofs.Source.Elapsed
import BenchReport.Proofs.Source.LineByLine

/-!
# Timings in snapshots

A timing is sixty times the minutes and the seconds, so it is never below zero, and it is finite exactly if the seconds as written lie in the range of doubles. The minutes cannot matter: sixty times a number of sixty-four bits is less than half of the last place of the largest double. So the results of a log can be saved and loaded again exactly if no elapsed time that counts has seconds beyond that range, which takes more than 308 digits.
-/

namespace BenchReport.RunLog

open Binary64 NumberText

/-! ### The value of a time -/

theorem value_sixty : value (magnitude 60) = 60 := by
  have hscale : scale (magnitude 60) = -47 := by decide
  have hsignificand : significand (magnitude 60) = 60 * 2 ^ 47 := by decide
  rw [value, hscale, hsignificand]
  norm_num

/-- Minutes of sixty-four bits are a finite number of seconds, and a small one among the doubles. -/
theorem minutes_bound {minutes : Nat} (h : minutes < 2 ^ 64) :
    ∃ size < infiniteMagnitude, ofInt minutes * 60 = ofMagnitude false size ∧ value size ≤ 2 ^ 70 := by
  have hcount : (minutes : Rat) ≤ 2 ^ 64 := by exact_mod_cast h.le
  obtain ⟨hfinite, hvalue⟩ := nearestMagnitude_le_twoPow (Nat.cast_nonneg minutes) hcount (by decide)
  have hint : ofInt minutes = ofMagnitude false (nearestMagnitude minutes) := by
    rw [ofInt, nearest, Int.natAbs_natCast, decide_eq_false (by omega)]
  have hmagnitude : magnitude (ofInt minutes) = nearestMagnitude minutes := by
    rw [hint, magnitude_ofMagnitude false hfinite.le]
  have hproduct : value (nearestMagnitude minutes) * 60 ≤ 2 ^ 70 := by
    linarith only [hvalue]
  obtain ⟨hfinite', hvalue'⟩ := nearestMagnitude_le_twoPow
    (mul_nonneg (value_nonneg _) (by norm_num)) hproduct (by decide)
  refine ⟨_, hfinite', ?_, hvalue'⟩
  rw [mul_eq (by omega) (by decide), hmagnitude, value_sixty, nearest, hint,
    isNegative_ofMagnitude false hfinite.le]
  rfl

/-- A time is at least zero, and it is finite exactly if its seconds lie in the range of doubles. -/
theorem Reading.WellFormed.value_bounds {reading : Reading} (h : reading.WellFormed) :
    0 ≤ reading.value ∧ (reading.value.isFinite = true ↔ reading.seconds.decimal.toRat < rangeEnd) := by
  have hlimit : (reading.minutes.map digitsValue).getD 0 < 2 ^ 64 := by
    cases hminutes : reading.minutes with
    | none => decide
    | some minutes => exact h.limit minutes hminutes
  obtain ⟨size, hsize, hminutes, hvalue⟩ := minutes_bound hlimit
  have hseconds : (0 : Rat) ≤ reading.seconds.decimal.toRat := by
    rw [Decimal.toRat]
    positivity
  rw [Reading.value, hminutes, Decimal.toFloat, Decimal.nearestMagnitude_eq, isFinite_iff,
    ← nearestMagnitude_lt_iff hseconds]
  have hle := nearestMagnitude_le_infinite reading.seconds.decimal.toRat
  generalize nearestMagnitude reading.seconds.decimal.toRat = seconds at hle ⊢
  have hleft := magnitude_ofMagnitude false hsize.le
  have hright := magnitude_ofMagnitude false hle
  rcases hle.lt_or_eq with hlt | rfl
  · have hsmall : (2 : Rat) ^ 70 < 2 ^ (970 : Int) := by
      rw [← zpow_natCast]
      exact zpow_lt_zpow_right₀ one_lt_two (by decide)
    have hsum := add_value_lt_rangeEnd (hvalue.trans_lt hsmall) hlt
    have hfinite := nearestMagnitude_lt_of_lt
      (add_nonneg (value_nonneg size) (value_nonneg seconds)) hsum
    rw [add_eq (by omega) (by omega) (isNegative_ofMagnitude false hsize.le)
      (isNegative_ofMagnitude false hle), hleft, hright, nearest,
      magnitude_ofMagnitude false hfinite.le]
    exact ⟨zero_le_ofMagnitude hfinite.le, iff_of_true hfinite hlt⟩
  · rw [add_infinite (by omega) hright (isNegative_ofMagnitude false hle),
      magnitude_ofMagnitude false le_rfl]
    exact ⟨zero_le_ofMagnitude le_rfl, iff_of_false (lt_irrefl _) (lt_irrefl _)⟩

/-! ### The seconds as written -/

/-- Seconds with at most 308 digits before the point lie in the range of doubles. -/
theorem Parts.Digits.decimal_lt {parts : Parts} (h : parts.Digits isDigit)
    (hlength : parts.whole.length ≤ 308) : parts.decimal.toRat < rangeEnd := by
  obtain ⟨whole, fraction⟩ := parts
  have hdigit : ∀ c ∈ whole ++ fraction.getD [], isDigit c = true := by
    intro c hc
    rcases List.mem_append.1 hc with hc | hc
    · exact h.whole.all c hc
    · cases fraction with
      | none => cases hc
      | some fraction => exact (h.fraction fraction rfl).all c hc
  show (decimalOf whole (fraction.getD []) 0).toRat < rangeEnd
  generalize fraction.getD [] = fraction at hdigit ⊢
  have hten : (10 : Rat) ≠ 0 := by norm_num
  have hlt : (digitsValue (whole ++ fraction) : Rat) < 10 ^ (whole ++ fraction).length := by
    exact_mod_cast digitsValue_lt hdigit
  calc (digitsValue (whole ++ fraction) : Rat) * 10 ^ (0 - fraction.length : Int)
      < 10 ^ (whole ++ fraction).length * 10 ^ (0 - fraction.length : Int) :=
        mul_lt_mul_of_pos_right hlt (by positivity)
    _ = 10 ^ whole.length := by
        rw [← zpow_natCast, ← zpow_add₀ hten, ← zpow_natCast, List.length_append]
        congr 1
        omega
    _ ≤ 10 ^ 308 := pow_le_pow_right₀ (by norm_num) hlength
    _ < rangeEnd := by decide +kernel

/-! ### Logs -/

/-- The fields of a log where a run has its elapsed time. -/
def elapsedFields (text : String) : List String :=
  (Text.lines text).filterMap fun line => (Text.words line)[2]?

/-- Every result of a log is the elapsed time of one of its lines. -/
theorem exists_field_of_mem_values {text : String} {value : Float}
    (h : value ∈ (resultsOf (parse text).runs).values) :
    ∃ field ∈ elapsedFields text, elapsedSeconds? field = some value := by
  obtain ⟨name, hname⟩ := SortedMap.mem_values.1 h
  obtain ⟨run, hrun, hpair⟩ := List.mem_map.1 (SortedMap.mem_of_get?_ofList hname)
  rw [runs_eq_filterMap_lines] at hrun
  obtain ⟨line, hline, hread⟩ := List.mem_filterMap.1 hrun
  obtain ⟨field, memory, user, system, others, hwords, _, helapsed, _⟩ := runOf?_eq_some.1 hread
  rw [Prod.mk.injEq] at hpair
  refine ⟨field, List.mem_filterMap.2 ⟨line, hline, ?_⟩, ?_⟩
  · rw [hwords]
    rfl
  · rw [helapsed, hpair.2]

/-- The results of a log are never below zero. They are stored and read back as they are exactly if all are finite, and a result is finite exactly if the seconds of its elapsed time lie in the range of doubles. -/
theorem resultsOf_storable (text : String) :
    (∀ value ∈ (resultsOf (parse text).runs).values, 0 ≤ value ∧
      ∃ field ∈ elapsedFields text, ∃ reading rest,
        Reads (Text.trimChars field.toList) reading rest ∧ reading.value = value ∧
        (value.isFinite = true ↔ reading.seconds.decimal.toRat < rangeEnd) ∧
        (reading.seconds.whole.length ≤ 308 → value.isFinite = true)) ∧
    ∀ (tree : FileTree) (path : String) (location : Location),
      tree.Writable path location →
      ∃ after, (resultsOf (parse text).runs).saveSnapshot tree path = .ok after ∧
        (Results.ofSnapshot after path = .ok (resultsOf (parse text).runs) ↔
          ∀ value ∈ (resultsOf (parse text).runs).values, value.isFinite = true) := by
  refine ⟨fun value hvalue => ?_, fun tree path location hwritable => ?_⟩
  · obtain ⟨field, hfield, helapsed⟩ := exists_field_of_mem_values hvalue
    obtain ⟨reading, rest, hreads, rfl⟩ := elapsedSeconds?_eq_some.1 helapsed
    obtain ⟨hnonneg, hfinite⟩ := hreads.wellFormed.value_bounds
    exact ⟨hnonneg, field, hfield, reading, rest, hreads, rfl, hfinite, fun hlength =>
      hfinite.2 (hreads.wellFormed.digits.seconds.decimal_lt hlength)⟩
  · obtain ⟨after, hsave, hload⟩ := Results.exists_saved (resultsOf (parse text).runs) hwritable
    refine ⟨after, hsave, ?_⟩
    rw [hload, ← List.all_eq_true]
    split
    · rename_i hall
      exact iff_of_true rfl hall
    · rename_i hall
      exact iff_of_false nofun hall

/-! #### Long elapsed times -/

/-- Seconds of a one and 309 zeros. -/
def overlong : Reading := ⟨none, ⟨'1' :: zeros 309, none⟩⟩

theorem wellFormed_overlong : overlong.WellFormed := by
  refine ⟨⟨nofun, ⟨List.cons_ne_nil _ _, ?_⟩, nofun⟩, nofun⟩
  intro c hc
  rcases List.mem_cons.1 hc with rfl | hc
  · decide
  · exact isDigit_of_mem_zeros hc

/-- A log of one line, a run with that elapsed time. -/
def overlongLog : String :=
  String.ofList (['g', ' ', 'm', 'i', ' '] ++ overlong.text ++ [' ', '0', ' ', '0', ' ', '0'])

theorem exists_runOf?_overlongLog :
    ∃ run, runOf? overlongLog = some run ∧ run.elapsed = overlong.value := by
  have hchars : Text.wordsOf overlongLog.toList =
      [['g'], ['m', 'i'], overlong.text, ['0'], ['0'], ['0']] := by
    rw [overlongLog, String.toList_ofList]
    decide +kernel
  have hwords := congrArg (List.map String.ofList) hchars
  have htrim : Text.trimChars (String.ofList overlong.text).toList = overlong.text := by
    rw [String.toList_ofList]
    decide +kernel
  have helapsed := elapsedSeconds?_of_reads (reads_of_text wellFormed_overlong htrim)
  exact ⟨⟨"g", "mi", overlong.value, count "0", seconds "0", seconds "0"⟩,
    runOf?_eq_some.2 ⟨_, _, _, _, _, hwords, by decide, helapsed, rfl, rfl, rfl⟩, rfl⟩

/-- The line counts as a run, and its timing is infinite; the results are stored, and what is stored cannot be loaded. -/
theorem not_storable_overlongLog :
    (parse overlongLog).skipped = 0 ∧
    (∃ value ∈ (resultsOf (parse overlongLog).runs).values, value.isFinite = false) ∧
    ∃ after, (resultsOf (parse overlongLog).runs).saveSnapshot .empty "base.json" = .ok after ∧
      Results.ofSnapshot after "base.json" = .error (.snapshotMalformed "base.json") := by
  obtain ⟨run, hrun, helapsed⟩ := exists_runOf?_overlongLog
  have hline : '\n' ∉ overlongLog.toList := by
    rw [overlongLog, String.toList_ofList]
    decide +kernel
  have hinfinite : run.elapsed.isFinite = false := by
    rw [helapsed, Bool.eq_false_iff]
    intro hfinite
    have hseconds : ¬overlong.seconds.decimal.toRat < rangeEnd := by decide +kernel
    exact hseconds (wellFormed_overlong.value_bounds.2.1 hfinite)
  have hwritable : FileTree.empty.Writable "base.json" ["base.json"] :=
    ⟨by decide +kernel, by decide +kernel⟩
  obtain ⟨after, hsave, hload⟩ := Results.exists_saved (resultsOf [run]) hwritable
  have hvalues : (resultsOf [run]).values = [run.elapsed] := rfl
  rw [hvalues, List.all_cons, hinfinite, Bool.false_and] at hload
  rw [skipped_parse, runs_parse, yields_of_runOf? hline hrun]
  exact ⟨rfl, ⟨run.elapsed, List.mem_singleton_self _, hinfinite⟩, after, hsave, hload⟩

end BenchReport.RunLog

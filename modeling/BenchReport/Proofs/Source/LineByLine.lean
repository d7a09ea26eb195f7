import BenchReport.Proofs.SortedMap
import BenchReport.Proofs.Text.Blank
import BenchReport.Source.RunLog

/-!
# Logs line by line

Whether a line carries data is told by the first character of its trimmed text, and whether it is a run by its words. The two agree, since the first word starts with that character, so a line that carries no data is no run. What a line yields depends on nothing but the line, and a carriage return at its end, which belongs to the line end or is a blank, changes neither. A log is therefore the sequence of what its lines yield: joining two logs by a newline joins the two sequences, and the results of the second overwrite those of the first.
-/

namespace BenchReport.RunLog

open Text

/-! ### Lines -/

theorem carriesData_iff {line : String} :
    carriesData line = true ↔ ∃ c, (trimChars line.toList).head? = some c ∧ c ≠ '#' := by
  rw [carriesData]
  cases trimChars line.toList with
  | nil => simp
  | cons c rest => simp

/-- A line is a run if it has enough words, of which the first starts no comment and the third is a time. -/
theorem runOf?_eq_some {line : String} {run : LoggedRun} :
    runOf? line = some run ↔ ∃ field memory user system others,
      words line = run.benchmark :: run.allocator :: field :: memory :: user :: system :: others ∧
      run.benchmark.toList.head? ≠ some '#' ∧ elapsedSeconds? field = some run.elapsed ∧
      run.memoryKb = count memory ∧ run.userSeconds = seconds user ∧
      run.systemSeconds = seconds system := by
  constructor
  · intro h
    rw [runOf?] at h
    split at h
    · rename_i hwords
      split at h
      · cases h
      · rename_i hcomment
        obtain ⟨elapsed, helapsed, rfl⟩ := Option.map_eq_some_iff.1 h
        exact ⟨_, _, _, _, _, hwords, hcomment, helapsed, rfl, rfl, rfl⟩
    · cases h
  · obtain ⟨benchmark, allocator, elapsed, memoryKb, userSeconds, systemSeconds⟩ := run
    rintro ⟨field, memory, user, system, others, hwords, hcomment, helapsed, rfl, rfl, rfl⟩
    rw [runOf?, hwords]
    dsimp only at hcomment ⊢
    rw [if_neg hcomment, helapsed]
    rfl

theorem carriesData_of_runOf? {line : String} {run : LoggedRun} (h : runOf? line = some run) :
    carriesData line = true := by
  obtain ⟨field, memory, user, system, others, hwords, hcomment, _⟩ := runOf?_eq_some.1 h
  obtain ⟨word, rest, hsplit, hbenchmark, _⟩ := List.map_eq_cons_iff.1 hwords
  rw [← hbenchmark, String.toList_ofList] at hcomment
  have hword : word ∈ wordsOf line.toList := by
    rw [hsplit]
    exact List.mem_cons_self
  obtain ⟨c, tail, rfl⟩ := List.exists_cons_of_ne_nil (ne_nil_of_mem_wordsOf hword)
  refine carriesData_iff.2 ⟨c, ?_, fun hsign => hcomment (congrArg some hsign)⟩
  rw [head?_trimChars, hsplit]
  rfl

/-- Neither reader of lines minds a blank at the end. -/
theorem carriesData_concat_blank {c : Char} (hblank : isBlank c = true) (chars : List Char) :
    carriesData (String.ofList (chars ++ [c])) = carriesData (String.ofList chars) := by
  rw [carriesData, carriesData, String.toList_ofList, String.toList_ofList,
    trimChars_concat_blank hblank]

theorem runOf?_concat_blank {c : Char} (hblank : isBlank c = true) (chars : List Char) :
    runOf? (String.ofList (chars ++ [c])) = runOf? (String.ofList chars) := by
  rw [runOf?, runOf?, words, words, String.toList_ofList, String.toList_ofList,
    wordsOf_concat_blank hblank]

/-! ### What the lines yield -/

/-- What a line with data yields: its run, or none if it is skipped. -/
def yield? (line : String) : Option (Option LoggedRun) :=
  if carriesData line then some (runOf? line) else none

/-- What the lines with data yield, in their order. -/
def yields (text : String) : List (Option LoggedRun) := (lines text).filterMap yield?

theorem yields_eq (text : String) : yields text = ((lines text).filter carriesData).map runOf? := by
  rw [yields]
  induction lines text with
  | nil => rfl
  | cons line rest ih =>
      cases hdata : carriesData line with
      | true =>
          have hyield : yield? line = some (runOf? line) := if_pos hdata
          rw [List.filterMap_cons_some hyield, List.filter_cons_of_pos hdata, List.map_cons, ih]
      | false =>
          have hyield : yield? line = none := if_neg (by simp [hdata])
          rw [List.filterMap_cons_none hyield, List.filter_cons_of_neg (by simp [hdata]), ih]

theorem yields_eq_segments (text : String) :
    yields text = (segments '\n' text).filterMap yield? := by
  apply filterMap_lines
  · rfl
  · intro chars
    rw [yield?, yield?, carriesData_concat_blank rfl, runOf?_concat_blank rfl]

theorem yields_append (front back : String) :
    yields (front ++ "\n" ++ back) = yields front ++ yields back := by
  rw [yields_eq_segments, show "\n" = String.singleton '\n' from rfl, segments_append,
    List.filterMap_append, ← yields_eq_segments, ← yields_eq_segments]

theorem yields_of_runOf? {line : String} {run : LoggedRun} (hline : '\n' ∉ line.toList)
    (h : runOf? line = some run) : yields line = [some run] := by
  have hyield : yield? line = some (some run) := by
    rw [yield?, if_pos (carriesData_of_runOf? h), h]
  rw [yields_eq_segments, segments_of_not_mem hline, List.filterMap_cons_some hyield,
    List.filterMap_nil]

/-! ### Runs and skipped lines -/

theorem runs_parse (text : String) : (parse text).runs = (yields text).filterMap id := by
  rw [yields_eq, List.filterMap_map]
  rfl

theorem length_yields (text : String) : (yields text).length =
    (yields text).countP Option.isSome + (yields text).countP Option.isNone := by
  rw [List.length_eq_countP_add_countP (p := Option.isSome)]
  congr 1
  apply List.countP_congr
  intro yield _
  cases yield <;> simp

theorem length_runs_parse (text : String) :
    (parse text).runs.length = (yields text).countP Option.isSome := by
  rw [runs_parse]
  exact List.length_filterMap_eq_countP

theorem skipped_parse (text : String) : (parse text).skipped = (yields text).countP Option.isNone := by
  have hlength : ((lines text).filter carriesData).length = (yields text).length := by
    rw [yields_eq, List.length_map]
  have hskipped : (parse text).skipped =
      ((lines text).filter carriesData).length - (parse text).runs.length := rfl
  rw [hskipped, hlength, length_yields, length_runs_parse, Nat.add_sub_cancel_left]

theorem runs_append (front back : String) :
    (parse (front ++ "\n" ++ back)).runs = (parse front).runs ++ (parse back).runs := by
  rw [runs_parse, yields_append, List.filterMap_append, ← runs_parse, ← runs_parse]

theorem skipped_append (front back : String) :
    (parse (front ++ "\n" ++ back)).skipped = (parse front).skipped + (parse back).skipped := by
  rw [skipped_parse, yields_append, List.countP_append, ← skipped_parse, ← skipped_parse]

theorem runOf?_eq_none {line : String} (h : carriesData line = false) : runOf? line = none := by
  cases hrun : runOf? line with
  | none => rfl
  | some run =>
      rw [carriesData_of_runOf? hrun] at h
      cases h

theorem runs_eq_filterMap_lines (text : String) : (parse text).runs = (lines text).filterMap runOf? := by
  rw [runs_parse, yields, List.filterMap_filterMap]
  apply List.filterMap_congr
  intro line _
  rw [yield?]
  split
  · rfl
  · rename_i hdata
    rw [runOf?_eq_none (Bool.eq_false_of_not_eq_true hdata)]
    rfl

theorem skipped_eq_countP_lines (text : String) : (parse text).skipped =
    (lines text).countP fun line => carriesData line && (runOf? line).isNone := by
  rw [skipped_parse, yields_eq, List.countP_map, List.countP_filter]
  apply List.countP_congr
  intro line _
  rw [Bool.and_comm]
  rfl

/-- Every line with data is a run or is skipped, and a line without data is no run. The runs and the results of joined logs are those of the first and then those of the second. -/
theorem parse_lineByLine (text : String) :
    (parse text).runs = (lines text).filterMap runOf? ∧
    (parse text).skipped =
      (lines text).countP (fun line => carriesData line && (runOf? line).isNone) ∧
    (parse text).runs.length + (parse text).skipped = (lines text).countP carriesData ∧
    (∀ line, carriesData line = false → runOf? line = none) ∧
    ∀ front back,
      (parse (front ++ "\n" ++ back)).runs = (parse front).runs ++ (parse back).runs ∧
      (parse (front ++ "\n" ++ back)).skipped = (parse front).skipped + (parse back).skipped ∧
      resultsOf (parse (front ++ "\n" ++ back)).runs =
        (resultsOf (parse front).runs).insertAll (resultsOf (parse back).runs).entries := by
  refine ⟨runs_eq_filterMap_lines text, skipped_eq_countP_lines text, ?_, fun _ => runOf?_eq_none,
    fun front back => ⟨runs_append front back, skipped_append front back, ?_⟩⟩
  · rw [length_runs_parse, skipped_parse, ← length_yields, yields_eq, List.length_map,
      List.countP_eq_length_filter]
  · rw [runs_append, resultsOf, List.map_append, SortedMap.ofList_append]
    rfl

end BenchReport.RunLog

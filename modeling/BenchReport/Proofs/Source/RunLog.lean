import BenchReport.Proofs.Delta.Partition
import BenchReport.Proofs.Results.Halves
import BenchReport.Proofs.Source.LineByLine

/-!
# Comparing the two halves of a log

A log is searched for a benchmark and an allocator without slashes by their name, and what is found is the elapsed time of the last line that logs a run of the two; a line that logs a run of others has another name. The comparison of a log's halves therefore says about a benchmark and an allocator what these two searches say, with the suffix and without it, whatever the other lines are.
-/

namespace BenchReport.RunLog

open SortedMap

/-! ### The last line of a run -/

/-- The elapsed time on a line, if it logs a run of the benchmark with the allocator. -/
def elapsedOn? (benchmark allocator line : String) : Option Float :=
  if carriesData line ∧ (Text.words line).take 2 = [benchmark, allocator] then
    (runOf? line).map LoggedRun.elapsed
  else none

/-- The elapsed time on the last line that logs a run of the benchmark with the allocator. -/
def lastElapsed? (text benchmark allocator : String) : Option Float :=
  (Text.lines text).reverse.findSome? (elapsedOn? benchmark allocator)

theorem take_words_of_runOf? {line : String} {run : LoggedRun} (h : runOf? line = some run) :
    (Text.words line).take 2 = [run.benchmark, run.allocator] := by
  obtain ⟨field, memory, user, system, others, hwords, _⟩ := runOf?_eq_some.1 h
  rw [hwords]
  rfl

theorem elapsedOn?_of_runOf? {line : String} {run : LoggedRun} (hdata : carriesData line = true)
    (h : runOf? line = some run) (benchmark allocator : String) :
    elapsedOn? benchmark allocator line =
      if run.benchmark = benchmark ∧ run.allocator = allocator then some run.elapsed else none := by
  rw [elapsedOn?, hdata, h, take_words_of_runOf? h]
  simp

/-! ### Runs by name -/

/-- The runs of some lines, searched for a name of two segments. -/
theorem lookupEntry_runs {benchmark allocator : String} (hbenchmark : '/' ∉ benchmark.toList)
    (hallocator : '/' ∉ allocator.toList) (lines : List String) :
    lookupEntry (benchmark ++ "/" ++ allocator)
        (((lines.filter carriesData).filterMap runOf?).map fun run => (run.name, run.elapsed)) =
      lines.findSome? (elapsedOn? benchmark allocator) := by
  induction lines with
  | nil => rfl
  | cons line rest ih =>
      cases hdata : carriesData line with
      | false =>
          rw [List.filter_cons_of_neg (by simp [hdata]), ih, List.findSome?_cons, elapsedOn?, hdata]
          simp
      | true =>
          rw [List.filter_cons_of_pos hdata, List.findSome?_cons]
          cases hrun : runOf? line with
          | none =>
              rw [List.filterMap_cons_none hrun, ih, elapsedOn?, hrun]
              simp
          | some run =>
              rw [List.filterMap_cons_some hrun, List.map_cons, lookupEntry,
                elapsedOn?_of_runOf? hdata hrun, ih, LoggedRun.name]
              simp only [NameParts.pair_inj hbenchmark hallocator]
              split <;> rfl

theorem get?_resultsOf_parse {benchmark allocator : String} (hbenchmark : '/' ∉ benchmark.toList)
    (hallocator : '/' ∉ allocator.toList) (text : String) :
    (resultsOf (parse text).runs).get? (benchmark ++ "/" ++ allocator) =
      lastElapsed? text benchmark allocator := by
  rw [resultsOf, get?_ofList, parse, lastElapsed?, ← List.map_reverse, ← List.filterMap_reverse,
    ← List.filter_reverse, lookupEntry_runs hbenchmark hallocator]

/-! ### Comparisons -/

/-- What the comparison of a log's halves says about a benchmark and an allocator. -/
theorem deltas_of_pair (text : String) {suffix benchmark allocator : String} (threshold : Float)
    (hsuffix : suffix ≠ "") (hbenchmark : '/' ∉ benchmark.toList)
    (hmarked : '/' ∉ (allocator ++ suffix).toList)
    (hplain : ¬suffix.toList <:+ allocator.toList) :
    let results := resultsOf (parse text).runs
    let name := benchmark ++ "/" ++ allocator
    ((results.baseHalf suffix).deltas (results.headHalf suffix) threshold).filter
        (fun delta => delta.name == name) =
      match lastElapsed? text benchmark (allocator ++ suffix),
        lastElapsed? text benchmark allocator with
      | some base, some head =>
        [.paired (.ofValues base head threshold) name base head (relativeChange base head)]
      | none, some head => [.added name head]
      | some base, none => [.removed name base]
      | none, none => [] := by
  intro results name
  have hallocator : '/' ∉ allocator.toList := fun h => hmarked (by simp [h])
  rw [Results.deltas_filter_name, Results.get?_baseHalf_pair hsuffix hbenchmark hmarked,
    Results.get?_headHalf_pair hbenchmark hallocator hplain,
    get?_resultsOf_parse hbenchmark hmarked, get?_resultsOf_parse hbenchmark hallocator]
  cases lastElapsed? text benchmark (allocator ++ suffix) <;>
    cases lastElapsed? text benchmark allocator <;> rfl

/-- A log with comments, cut lines, earlier runs, names with slashes and a variant that has the suffix twice. -/
def mixedLog : String :=
  "# g mi 9 0 0 0\ng mi 3.5 1 0 0\ng mi-base 2 1 0 0\n\ng mi-base-base 7 1 0 0\ng/mi x 8 1 0 0\n" ++
  "g mi/4 6 1 0 0\ng mi 0:01.5 1 0 0 more\ng mi slow 1 0 0\ng mi 4 1 0\n#g mi-base 5 1 0 0\n"

theorem deltas_of_pair_mixedLog :
    ((Results.baseHalf (resultsOf (parse mixedLog).runs) "-base").deltas
        (Results.headHalf (resultsOf (parse mixedLog).runs) "-base") 0.05).filter
        (fun delta => delta.name == "g/mi") = [.paired .improved "g/mi" 2 1.5 (-0.25)] ∧
      lastElapsed? mixedLog "g" "mi-base" = some 2 ∧ lastElapsed? mixedLog "g" "mi" = some 1.5 := by
  have hbase : lastElapsed? mixedLog "g" ("mi" ++ "-base") = some 2 := by decide +kernel
  have hhead : lastElapsed? mixedLog "g" "mi" = some 1.5 := by decide +kernel
  have hverdict : Verdict.ofValues 2 1.5 0.05 = .improved := by decide +kernel
  have hchange : relativeChange 2 1.5 = -0.25 := by decide +kernel
  have hsuffix : "-base" ≠ "" := by decide
  have hbenchmark : '/' ∉ "g".toList := by decide
  have hmarked : '/' ∉ ("mi" ++ "-base").toList := by decide
  have hplain : ¬"-base".toList <:+ "mi".toList := by decide
  have h := deltas_of_pair mixedLog 0.05 hsuffix hbenchmark hmarked hplain
  rw [hbase, hhead] at h
  dsimp only at h
  rw [hverdict, hchange] at h
  exact ⟨h, hbase, hhead⟩

end BenchReport.RunLog

import BenchReport.Proofs.Panel.Regrouping
import BenchReport.Proofs.Results.Halves
import BenchReport.Source.RunLog
import Mathlib.Data.List.Dedup

/-!
# Runs kept apart

The results of a log are filed by name, and a name is a benchmark and an allocator with a slash between them. Where neither has a slash of its own, no other pair is written as the same name: the entry is that of the last run of the two, and its parts are the two, so whatever looks at the variant looks at the allocator. A slash in one of them moves the cut, and then the parts are others. So a log is filed as one entry for each benchmark and allocator exactly if none of its runs has such a slash.
-/

namespace BenchReport

open SortedMap

namespace LoggedRun

/-- The benchmark and the allocator of a run. -/
def pair (run : LoggedRun) : String × String := (run.benchmark, run.allocator)

/-- The name that a benchmark and an allocator are filed under. -/
def nameOf (pair : String × String) : String := pair.1 ++ "/" ++ pair.2

/-- Whether the slash between benchmark and allocator is the only one in the name. -/
structure IsSlashFree (run : LoggedRun) : Prop where
  benchmark : '/' ∉ run.benchmark.toList
  allocator : '/' ∉ run.allocator.toList

instance (run : LoggedRun) : Decidable run.IsSlashFree :=
  decidable_of_iff ('/' ∉ run.benchmark.toList ∧ '/' ∉ run.allocator.toList)
    ⟨fun h => ⟨h.1, h.2⟩, fun h => ⟨h.benchmark, h.allocator⟩⟩

theorem slash_mem_name (run : LoggedRun) : '/' ∈ run.name.toList := by
  simp [name]

theorem IsSlashFree.name_eq_iff {run : LoggedRun} (h : run.IsSlashFree) (other : LoggedRun) :
    other.name = run.name ↔ other.pair = run.pair := by
  rw [name, name, NameParts.pair_inj h.benchmark h.allocator, pair, pair, Prod.mk.injEq]

theorem ofName_name_iff {run : LoggedRun} :
    NameParts.ofName run.name = ⟨run.benchmark, run.allocator, none, false⟩ ↔ run.IsSlashFree := by
  constructor
  · intro h
    have hfree := NameParts.slashFree_ofName run.name
    rw [h] at hfree
    exact ⟨hfree.group, hfree.variant⟩
  · exact fun h => NameParts.ofName_pair h.benchmark h.allocator

end LoggedRun

namespace RunLog

/-! ### The last run of a name -/

/-- Under every name the results hold the elapsed time of the last run with that name. -/
theorem get?_resultsOf (runs : List LoggedRun) (name : String) :
    (resultsOf runs).get? name =
      (runs.reverse.find? fun run => run.name == name).map LoggedRun.elapsed := by
  rw [resultsOf, get?_ofList, ← List.map_reverse, lookupEntry_eq_find?, List.find?_map,
    Option.map_map]
  rfl

theorem mem_keys_resultsOf {runs : List LoggedRun} {name : String} :
    name ∈ (resultsOf runs).keys ↔ name ∈ runs.map LoggedRun.name := by
  rw [mem_keys_iff_contains, resultsOf, contains_ofList_iff, List.map_map]
  rfl

/-- There are as many entries as names. -/
theorem size_resultsOf (runs : List LoggedRun) :
    (resultsOf runs).size = (runs.map LoggedRun.name).dedup.length := by
  rw [size_eq_length_keys]
  refine List.Perm.length_eq ((List.perm_ext_iff_of_nodup ?_ (List.nodup_dedup _)).2 fun name => ?_)
  · exact nodup_of_ascending id (keys_ascending _)
  · rw [mem_keys_resultsOf, List.mem_dedup]

/-- The elapsed time of the last run of a benchmark with an allocator. -/
def lastOf? (runs : List LoggedRun) (pair : String × String) : Option Float :=
  (runs.reverse.find? fun run => run.pair == pair).map LoggedRun.elapsed

/-! ### One run -/

/-- A run is filed apart from those of other pairs, and what is done by variant is done by its allocator. -/
structure FiledApart (runs : List LoggedRun) (results : Results) (run : LoggedRun) : Prop where
  parts : NameParts.ofName run.name = ⟨run.benchmark, run.allocator, none, false⟩
  own : ∀ other ∈ runs, other.name = run.name → other.pair = run.pair
  last : results.get? run.name = lastOf? runs run.pair
  restricted : ∀ wanted : String → Bool, (results.restrict wanted).get? run.name =
    if wanted run.allocator then results.get? run.name else none
  head : ∀ suffix, (results.headHalf suffix).get? run.name =
    if suffix ≠ "" ∧ suffix.toList <:+ run.allocator.toList then none else results.get? run.name
  base : ∀ allocator suffix, suffix ≠ "" → run.allocator = allocator ++ suffix →
    (results.baseHalf suffix).get? (run.benchmark ++ "/" ++ allocator) = results.get? run.name
  drawn : ∀ restriction,
    (Panels.ofResults results restriction).value? run.benchmark .absent run.allocator =
      if Panels.admits restriction run.allocator then results.get? run.name else none

section Run

variable {runs : List LoggedRun} {run : LoggedRun} (h : run.IsSlashFree)

include h

theorem get?_resultsOf_name : (resultsOf runs).get? run.name = lastOf? runs run.pair := by
  have htest (other : LoggedRun) : (other.name == run.name) = (other.pair == run.pair) := by
    rw [Bool.eq_iff_iff, beq_iff_eq, beq_iff_eq]
    exact h.name_eq_iff other
  simp only [get?_resultsOf, lastOf?, htest]

theorem get?_restrict_name (results : Results) (wanted : String → Bool) :
    (results.restrict wanted).get? run.name =
      if wanted run.allocator then results.get? run.name else none := by
  have hvariant : Results.variantOf run.name = run.allocator := by
    rw [Results.variantOf, LoggedRun.ofName_name_iff.2 h]
  rw [Results.restrict, get?_filter, hvariant]
  cases results.get? run.name <;> cases wanted run.allocator <;> rfl

theorem get?_headHalf_name (results : Results) (suffix : String) :
    (results.headHalf suffix).get? run.name =
      if suffix ≠ "" ∧ suffix.toList <:+ run.allocator.toList then none
      else results.get? run.name := by
  have hplain : Results.baseName? suffix run.name = none ↔
      ¬(suffix ≠ "" ∧ suffix.toList <:+ run.allocator.toList) := by
    rw [Results.baseName?_eq_none, Results.variantOf, LoggedRun.ofName_name_iff.2 h]
    simp only [run.slash_mem_name, not_true_eq_false, false_or]
    tauto
  rw [Results.headHalf, get?_filter]
  split
  · rename_i hmarked
    rw [Option.filter_eq_none_iff]
    intro value _
    rw [Option.isNone_iff_eq_none, hplain, not_not]
    exact hmarked
  · rename_i hmarked
    rw [hplain.2 hmarked]
    cases results.get? run.name <;> rfl

theorem get?_baseHalf_name (results : Results) {allocator suffix : String} (hsuffix : suffix ≠ "")
    (hallocator : run.allocator = allocator ++ suffix) :
    (results.baseHalf suffix).get? (run.benchmark ++ "/" ++ allocator) = results.get? run.name := by
  have hmarked := h.allocator
  rw [hallocator] at hmarked
  rw [Results.get?_baseHalf_pair hsuffix h.benchmark hmarked, LoggedRun.name, hallocator]

/-- Of the names in a log only that of the run is filed at its place. -/
theorem placeOf_eq_iff {name : String} (hname : name ∈ (resultsOf runs).keys) :
    Panels.placeOf name = (run.benchmark, .absent, run.allocator) ↔ name = run.name := by
  obtain ⟨other, _, rfl⟩ := List.mem_map.1 (mem_keys_resultsOf.1 hname)
  constructor
  · intro hplace
    rw [Panels.placeOf, Prod.mk.injEq, Prod.mk.injEq, AxisKey.ofSegment_eq_absent] at hplace
    obtain ⟨hgroup, hparameter, hvariant⟩ := hplace
    have hlone : (NameParts.ofName other.name).lone = false := by
      rw [← Bool.not_eq_true, NameParts.lone_iff, not_not]
      exact other.slash_mem_name
    rw [NameParts.eq_pair_of_parameter hlone hparameter, hgroup, hvariant]
    rfl
  · intro hsame
    rw [hsame, Panels.placeOf, LoggedRun.ofName_name_iff.2 h]
    rfl

theorem value?_ofResults_name (restriction : Option (SortedSet String)) :
    (Panels.ofResults (resultsOf runs) restriction).value? run.benchmark .absent run.allocator =
      if Panels.admits restriction run.allocator then (resultsOf runs).get? run.name else none := by
  apply Option.ext
  intro value
  rw [Panels.value?_ofResults_eq_some, Option.ite_none_right_eq_some]
  refine and_congr_right fun _ => ⟨fun ⟨name, hvalue, hplace, _⟩ => ?_, fun hvalue => ?_⟩
  · rwa [(placeOf_eq_iff h (mem_keys_of_get? hvalue)).1 hplace] at hvalue
  · have hname := mem_keys_of_get? hvalue
    refine ⟨run.name, hvalue, (placeOf_eq_iff h hname).2 rfl, fun other hother hplace => ?_⟩
    obtain rfl := (placeOf_eq_iff h hother).1 hplace
    exact String.le_refl _

end Run

theorem filedApart_iff {runs : List LoggedRun} {run : LoggedRun} :
    FiledApart runs (resultsOf runs) run ↔ run.IsSlashFree := by
  refine ⟨fun h => LoggedRun.ofName_name_iff.1 h.parts, fun h => ?_⟩
  exact {
    parts := LoggedRun.ofName_name_iff.2 h
    own := fun other _ => (h.name_eq_iff other).1
    last := get?_resultsOf_name h
    restricted := get?_restrict_name h _
    head := get?_headHalf_name h _
    base := fun _ _ => get?_baseHalf_name h _
    drawn := value?_ofResults_name h }

/-! ### All runs -/

/-- Results that keep the runs of a log apart: one entry for each benchmark and allocator. -/
structure KeepsApart (runs : List LoggedRun) (results : Results) : Prop where
  size : results.size = (runs.map LoggedRun.pair).dedup.length
  covered : ∀ name ∈ results.keys, ∃ run ∈ runs, run.name = name
  apart : ∀ run ∈ runs, FiledApart runs results run

/-- Where the names tell the pairs, there are as many names as pairs. -/
theorem length_dedup_names {runs : List LoggedRun} (h : ∀ run ∈ runs, run.IsSlashFree) :
    (runs.map LoggedRun.name).dedup.length = (runs.map LoggedRun.pair).dedup.length := by
  have hnames : runs.map LoggedRun.name = (runs.map LoggedRun.pair).map LoggedRun.nameOf := by
    rw [List.map_map]
    rfl
  have hinj : ∀ one ∈ (runs.map LoggedRun.pair).dedup, ∀ other ∈ (runs.map LoggedRun.pair).dedup,
      LoggedRun.nameOf one = LoggedRun.nameOf other → one = other := by
    intro one hone other hother hsame
    obtain ⟨run, _, rfl⟩ := List.mem_map.1 (List.mem_dedup.1 hone)
    obtain ⟨last, hlast, rfl⟩ := List.mem_map.1 (List.mem_dedup.1 hother)
    exact ((h last hlast).name_eq_iff run).1 hsame
  calc (runs.map LoggedRun.name).dedup.length
      = ((runs.map LoggedRun.pair).dedup.map LoggedRun.nameOf).length := by
        refine ((List.perm_ext_iff_of_nodup (List.nodup_dedup _)
          ((List.nodup_dedup _).map_on hinj)).2 fun name => ?_).length_eq
        rw [hnames, List.mem_dedup]
        simp only [List.mem_map, List.mem_dedup]
    _ = (runs.map LoggedRun.pair).dedup.length := List.length_map _

theorem keepsApart_iff {runs : List LoggedRun} :
    KeepsApart runs (resultsOf runs) ↔ ∀ run ∈ runs, run.IsSlashFree := by
  refine ⟨fun h run hrun => filedApart_iff.1 (h.apart run hrun), fun h => ?_⟩
  refine ⟨?_, fun name hname => ?_, fun run hrun => filedApart_iff.2 (h run hrun)⟩
  · rw [size_resultsOf, length_dedup_names h]
  · exact List.mem_map.1 (mem_keys_resultsOf.1 hname)

/-- A log is filed by name, the last run of a name counting. It has one entry for each benchmark and allocator, told by their name, exactly if no run has a slash in one of them; and whatever the other runs are, a run without such a slash is filed apart from them. -/
theorem resultsOf_keepsApart (text : String) :
    let runs := (parse text).runs
    let results := resultsOf runs
    (KeepsApart runs results ↔ ∀ run ∈ runs, run.IsSlashFree) ∧
    (∀ run, FiledApart runs results run ↔ run.IsSlashFree) ∧
    (∀ name, results.get? name =
      (runs.reverse.find? fun run => run.name == name).map LoggedRun.elapsed) ∧
    results.size = (runs.map LoggedRun.name).dedup.length :=
  ⟨keepsApart_iff, fun _ => filedApart_iff, get?_resultsOf _, size_resultsOf _⟩

/-- Two pairs that are written as one name, and one without a slash of its own. -/
def slashedLog : String := "g/h mi 1 0 0 0\ng mi 5 0 0 0\ng h/mi 2 0 0 0\ng mi 3 0 0 0\n"

theorem resultsOf_keepsApart_slashedLog :
    LoggedRun.IsSlashFree ⟨"g", "mi", 3, 0, 0, 0⟩ ∧
    FiledApart (parse slashedLog).runs (resultsOf (parse slashedLog).runs) ⟨"g", "mi", 3, 0, 0, 0⟩ ∧
    lastOf? (parse slashedLog).runs ("g", "mi") = some 3 := by
  have hfree : LoggedRun.IsSlashFree ⟨"g", "mi", 3, 0, 0, 0⟩ := by decide
  exact ⟨hfree, ((resultsOf_keepsApart slashedLog).2.1 _).2 hfree, by decide +kernel⟩

/-- The later of two pairs overwrites the other, and neither is what the name says. -/
theorem not_keepsApart_slashedLog :
    (parse slashedLog).runs.map LoggedRun.pair =
      [("g/h", "mi"), ("g", "mi"), ("g", "h/mi"), ("g", "mi")] ∧
    (resultsOf (parse slashedLog).runs).entries = [("g/h/mi", 2), ("g/mi", 3)] ∧
    NameParts.ofName "g/h/mi" = ⟨"g", "h", some "mi", false⟩ ∧
    ¬KeepsApart (parse slashedLog).runs (resultsOf (parse slashedLog).runs) := by
  refine ⟨by decide +kernel, by decide +kernel, by decide +kernel, fun h => ?_⟩
  exact absurd h.size (by decide +kernel)

end RunLog

end BenchReport

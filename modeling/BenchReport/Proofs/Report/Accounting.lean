import BenchReport.Proofs.Chart.Exhibit
import BenchReport.Proofs.Feed
import BenchReport.Proofs.Report.Isolation

/-!
# What a run accounts for

A run answers for each output that it was asked for, in one order, and for no other. Where it tells how much an output holds, the output is complete and holds as much: this is counted in what can be read from the final tree, not taken from the run. The rest of the tree is as it was. Since outputs do not disturb one another, it is enough to look at each by itself; the exit code and the warnings are told by the statuses and by what was found.
-/

namespace BenchReport

open FileTree

/-! ### Exit codes -/

/-- The exit code tells whether every output was written, apart from charts that there is no painter for. -/
theorem Outcome.exitCode_eq_zero_iff (outcome : Outcome) :
    outcome.exitCode = 0 ↔ ∀ status ∈ outcome.statuses,
      (∃ count, status.result = .ok count) ∨
        ∃ error, status.result = .error error ∧ error.kind = .noPainter := by
  have hstatus (status : OutputStatus) : ¬status.failed = true ↔
      (∃ count, status.result = .ok count) ∨
        ∃ error, status.result = .error error ∧ error.kind = .noPainter := by
    rw [OutputStatus.failed]
    cases status.result <;> simp
  have hfailures : outcome.failures.isEmpty = true ↔
      ∀ status ∈ outcome.statuses, ¬status.failed = true := by
    rw [List.isEmpty_iff, failures, List.filter_eq_nil_iff]
  simp only [← hstatus, ← hfailures, exitCode]
  cases outcome.failures.isEmpty <;> simp

/-! ### Warnings -/

/-- The warning about a pass over a source that yields no results. -/
def emptinessWarning (results : Results) (origin : String) : List String :=
  if results.isEmpty then ["no benchmark results found in " ++ origin] else []

def painterWarning : String :=
  "chart backend unavailable: no image backend compiled in, skipping charts"

theorem Harvest.toList_warning (results : Results) (skipped : Nat) (origin : String) :
    (ofResults results skipped origin).warning.toList =
      emptinessWarning (ofResults results skipped origin).results origin := by
  rw [ofResults, emptinessWarning]
  cases results.isEmpty <;> rfl

theorem EstimateTree.toList_warning_harvest (source : EstimateTree) (tree : FileTree) :
    (source.harvest tree).warning.toList =
      emptinessWarning (source.harvest tree).results source.root :=
  Harvest.toList_warning _ _ _

namespace Source

/-- The name of a source in warnings. -/
def origin : Source → String
  | estimates head _ => head.root
  | log path => path

/-- The tree of the base run, if it has one of its own. -/
def baseTree? : Source → Option EstimateTree
  | estimates head (.directory path) => some { head with root := path }
  | _ => none

theorem toList_warning_harvest (source : Source) (tree : FileTree) :
    (source.harvest tree).warning.toList =
      emptinessWarning (source.harvest tree).results source.origin := by
  cases source with
  | estimates head base => exact head.toList_warning_harvest tree
  | log path =>
      rw [harvest, RunLog.harvest]
      exact Harvest.toList_warning _ _ _

end Source

namespace Request

theorem toList_baseWarning (request : Request) (tree : FileTree) :
    (request.gather tree).baseWarning.toList = request.source.baseTree?.toList.flatMap fun base =>
      emptinessWarning (base.harvest tree).results base.root := by
  obtain ⟨source, destinations, settings⟩ := request
  cases source with
  | estimates head base =>
      cases base with
      | absent => rfl
      | directory path =>
          have hwarning := ({ head with root := path } : EstimateTree).toList_warning_harvest tree
          simp only [Source.baseTree?, Option.toList_some, List.flatMap_singleton]
          exact hwarning
      | snapshot path => rfl
  | log path =>
      simp only [gather, findBase, Source.baseTree?, Option.toList_none, List.flatMap_nil]
      split <;> rfl

/-- That there is no base is never put down to the painter. -/
theorem base_ne_noPainter (request : Request) (tree : FileTree) :
    (request.gather tree).base ≠ .error .noPainter := by
  obtain ⟨source, destinations, settings⟩ := request
  cases source with
  | estimates head base =>
      cases base with
      | absent => simp [gather, findBase]
      | directory path => simp [gather, findBase]
      | snapshot path =>
          simp only [gather, findBase, Results.ofSnapshot]
          split
          · simp
          · split
            · simp
            · split <;> simp
  | log path =>
      simp only [gather, findBase]
      split <;> simp

end Request

/-- A gallery that has a painter never lacks one. -/
theorem Gallery.write_ne_noPainter (tree : FileTree) (panels : Panels) (settings : Settings)
    (painter : Painter) (directory : String) :
    (write tree panels settings (some painter) directory).2 ≠ .error .noPainter := by
  rw [write]
  split
  · simp
  · rw [close]
    split
    · rw [outcome]
      split <;> simp
    · simp

theorem ReportError.kind_eq_noPainter_iff {error : ReportError} :
    error.kind = .noPainter ↔ error = .noPainter := by
  cases error <;> simp [kind]

namespace OutputStatus

theorem warning?_eq_none {status : OutputStatus} (h : status.result ≠ .error .noPainter) :
    status.warning? = none := by
  rw [warning?]
  cases hresult : status.result with
  | ok count => rfl
  | error error =>
      refine if_neg fun hkind => h ?_
      rw [hresult, ReportError.kind_eq_noPainter_iff.1 hkind]

theorem warning?_noPainter (output : Output) :
    warning? ⟨output, .error .noPainter⟩ = some painterWarning := by
  have hmessage : ReportError.noPainter.message .standard = painterWarning := by decide +kernel
  exact congrArg some hmessage

end OutputStatus

theorem writeCharts_eq (tree : FileTree) (directory : String) (head : Results) (settings : Settings)
    (painter : Option Painter) :
    writeCharts tree directory head settings painter =
      ((Gallery.write tree (.ofResults head settings.chartVariants) settings painter directory).1,
        (Gallery.write tree (.ofResults head settings.chartVariants) settings painter directory).2.map
          List.length) := rfl

section Warnings

variable {evidence : Evidence} (settings : Settings) {painter : Option Painter}

theorem writeReported_ne_noPainter {report : FileFault → ReportError}
    (hreport : ∀ fault, report fault ≠ .noPainter) (tree : FileTree) (path text : String)
    (count : Nat) : (writeReported report tree path text count).2 ≠ .error .noPainter := by
  rw [writeReported]
  cases tree.writeFile path (.text text) with
  | ok written => simp
  | error fault => simpa using hreport fault

/-- Only charts can lack a painter. -/
theorem Output.write_ne_noPainter (hbase : evidence.base ≠ .error .noPainter) {output : Output}
    (h : output ≠ .charts ∨ painter.isSome) (path : String) (tree : FileTree) :
    (output.write evidence settings painter path tree).2 ≠ .error .noPainter := by
  cases output with
  | points => exact writeReported_ne_noPainter (by simp) tree path _ _
  | measures => exact writeReported_ne_noPainter (by simp) tree path _ _
  | baseline =>
      simp only [write, writeBaseline_eq]
      exact writeReported_ne_noPainter (by simp) tree path _ _
  | charts =>
      obtain ⟨one, rfl⟩ := Option.isSome_iff_exists.1 (h.resolve_left fun hne => hne rfl)
      have hwrite := Gallery.write_ne_noPainter tree
        (.ofResults evidence.head settings.chartVariants) settings one path
      rw [write, writeCharts_eq]
      cases hresult : (Gallery.write tree (.ofResults evidence.head settings.chartVariants) settings
          (some one) path).2 with
      | ok files => simp [Except.map]
      | error error =>
          rw [hresult] at hwrite
          simpa [Except.map] using hwrite
  | comment =>
      simp only [write, writeComment]
      cases hfound : evidence.base with
      | error error =>
          rw [hfound] at hbase
          simpa using hbase
      | ok base => exact writeReported_ne_noPainter (by simp) tree path _ _

/-- Only charts without a painter are worth a warning. -/
theorem warning?_soloStatus (hbase : evidence.base ≠ .error .noPainter) (tree : FileTree)
    (entry : Output × String) :
    (soloStatus evidence settings painter tree entry).warning? =
      if entry.1 = .charts ∧ painter.isNone then some painterWarning else none := by
  obtain ⟨output, path⟩ := entry
  by_cases h : output = .charts ∧ painter.isNone
  · obtain ⟨rfl, hpainter⟩ := h
    rw [Option.isNone_iff_eq_none.1 hpainter, if_pos ⟨rfl, rfl⟩]
    exact OutputStatus.warning?_noPainter .charts
  · rw [if_neg h]
    refine OutputStatus.warning?_eq_none (Output.write_ne_noPainter settings hbase ?_ path tree)
    rw [not_and_or, Option.isNone_iff_eq_none, ← ne_eq, ← ne_eq, Option.ne_none_iff_isSome] at h
    exact h

theorem warnings_writeOutputs (hbase : evidence.base ≠ .error .noPainter)
    (entries : List (Output × String)) (tree : FileTree) :
    (writeOutputs evidence settings painter entries tree).2.filterMap OutputStatus.warning? =
      entries.filterMap fun entry =>
        if entry.1 = .charts ∧ painter.isNone then some painterWarning else none := by
  induction entries generalizing tree with
  | nil => rfl
  | cons entry rest ih =>
      rw [writeOutputs_cons, List.filterMap_cons, List.filterMap_cons, ih,
        warning?_soloStatus settings hbase]

end Warnings

/-! ### What was asked for -/

namespace Destinations

variable (destinations : Destinations)

theorem outputs_requested : destinations.requested.map Prod.fst =
    Output.all.filter fun output => (destinations.path? output).isSome := by
  rw [requested, List.map_filterMap, ← List.filterMap_eq_filter]
  refine List.filterMap_congr fun output _ => ?_
  cases hpath : destinations.path? output <;> simp [Option.guard, hpath]

theorem painterWarnings_requested (painter : Option Painter) :
    (destinations.requested.filterMap fun entry =>
        if entry.1 = .charts ∧ painter.isNone then some painterWarning else none) =
      if destinations.charts.isSome ∧ painter.isNone then [painterWarning] else [] := by
  obtain ⟨points, measures, baseline, charts, comment⟩ := destinations
  rw [requested, List.filterMap_filterMap]
  cases painter <;> cases points <;> cases measures <;> cases baseline <;> cases charts <;>
    cases comment <;> rfl

end Destinations

/-! ### Complete outputs -/

/-- The charts that a run draws. -/
def Evidence.drawn (evidence : Evidence) (settings : Settings) : List Chart :=
  Chart.ofPanels settings (.ofResults evidence.head settings.chartVariants)

/-- An output is complete at a path of a tree and holds as much as is counted. A baseline has all that was harvested, whatever part of it is compared. -/
def Output.Holds (evidence : Evidence) (harvested : Results) (settings : Settings)
    (painter : Option Painter) (path : String) (count : Nat) (tree : FileTree) : Output → Prop
  | points => tree.readFile path = .ok (.text (Feed.pointsText evidence.head settings)) ∧
      Json.arrayLength? (Feed.pointsText evidence.head settings) = some count
  | measures => tree.readFile path = .ok (.text (Feed.measuresText evidence.head settings)) ∧
      Json.objectSize? (Feed.measuresText evidence.head settings) = some count
  | baseline => tree.readFile path = .ok (.text harvested.snapshotText) ∧
      Json.objectSize? harvested.snapshotText = some count ∧ harvested.size = count
  | charts => ∃ one ∈ painter,
      Gallery.Exhibits one path settings.chartsTitle (evidence.drawn settings) tree ∧
      (Gallery.files one (evidence.drawn settings)).length = count
  | comment => ∃ base, evidence.base = .ok base ∧
      tree.readFile path = .ok (.text
        (Markdown.report (base.deltas evidence.head settings.threshold) settings)) ∧
      (base.deltas evidence.head settings.threshold).length = count

section Holds

variable {evidence : Evidence} {settings : Settings} {painter : Option Painter} {tree final : FileTree}
  {path : String} {location : Location} (htarget : tree.target? path = some location)
  (hkeeps : Keeps tree final)

include htarget hkeeps

/-- A text that was written can be read in every later state that has the same at its location. -/
theorem readFile_of_writeReported {report : FileFault → ReportError} {text : String}
    {count counted : Nat} (hcount : (writeReported report tree path text counted).2 = .ok count)
    (hsame : SameBelow location (writeReported report tree path text counted).1 final) :
    final.readFile path = .ok (.text text) ∧ counted = count := by
  rw [writeReported] at hcount hsame
  cases hwrite : tree.writeFile path (.text text) with
  | error fault =>
      rw [hwrite] at hcount
      cases hcount
  | ok written =>
      rw [hwrite] at hcount hsame
      obtain ⟨place, hplace⟩ := writable_of_writeFile hwrite
      cases htarget.symm.trans hplace.target
      obtain ⟨after, hafter, _, hnode⟩ := hplace.write (.text text)
      cases hwrite.symm.trans hafter
      refine ⟨hplace.reads hkeeps ?_, Except.ok.inj hcount⟩
      exact (hsame location (List.suffix_refl location)).symm.trans hnode

/-- Charts that are counted can all be seen in every later state that has the same in their directory. -/
theorem holds_of_writeCharts {count : Nat}
    (hcharts : ∀ one ∈ painter, ∀ chart ∈ evidence.drawn settings,
      '/' ∉ (Gallery.fileOf one chart).toList ∧ Gallery.fileOf one chart ≠ Gallery.indexFile)
    (hcount : (writeCharts tree path evidence.head settings painter).2 = .ok count)
    (hsame : SameBelow location (writeCharts tree path evidence.head settings painter).1 final) :
    Output.charts.Holds evidence evidence.harvested settings painter path count final := by
  rw [writeCharts_eq] at hcount hsame
  cases painter with
  | none => cases hcount
  | some one =>
      have hone := hcharts one rfl
      cases hwritten : (Gallery.write tree (.ofResults evidence.head settings.chartVariants) settings
          (some one) path).2 with
      | error error =>
          rw [hwritten] at hcount
          cases hcount
      | ok written =>
          rw [hwritten] at hcount
          obtain ⟨rfl, hexhibits⟩ := Gallery.exhibits_of_write htarget
            (fun chart hchart => (hone chart hchart).1) (fun chart hchart => (hone chart hchart).2)
            hwritten hkeeps hsame
          exact ⟨one, rfl, hexhibits, Except.ok.inj hcount⟩

/-- An output that tells how much it holds is complete in every later state that has the same at and below its location. -/
theorem Output.holds_of_write {output : Output} {count : Nat}
    (hcharts : output = .charts → ∀ one ∈ painter, ∀ chart ∈ evidence.drawn settings,
      '/' ∉ (Gallery.fileOf one chart).toList ∧ Gallery.fileOf one chart ≠ Gallery.indexFile)
    (hcount : (output.write evidence settings painter path tree).2 = .ok count)
    (hsame : SameBelow location (output.write evidence settings painter path tree).1 final) :
    output.Holds evidence evidence.harvested settings painter path count final := by
  cases output with
  | points =>
      obtain ⟨hread, rfl⟩ := readFile_of_writeReported htarget hkeeps hcount hsame
      exact ⟨hread, Feed.arrayLength?_pointsText _ _⟩
  | measures =>
      obtain ⟨hread, rfl⟩ := readFile_of_writeReported htarget hkeeps hcount hsame
      exact ⟨hread, Feed.objectSize?_measuresText _ _⟩
  | baseline =>
      simp only [write, writeBaseline_eq] at hcount hsame
      obtain ⟨hread, hsize⟩ := readFile_of_writeReported htarget hkeeps hcount hsame
      exact ⟨hread, hsize ▸ Results.objectSize?_snapshotText _, hsize⟩
  | charts => exact holds_of_writeCharts htarget hkeeps (hcharts rfl) hcount hsame
  | comment =>
      simp only [write, writeComment] at hcount hsame
      cases hbase : evidence.base with
      | error error =>
          rw [hbase] at hcount
          cases hcount
      | ok base =>
          rw [hbase] at hcount hsame
          obtain ⟨hread, hlength⟩ := readFile_of_writeReported htarget hkeeps hcount hsame
          exact ⟨base, hbase, hread, hlength⟩

end Holds

/-! ### The rest of the tree -/

/-- What may change in a tree for an output that is written to a location: charts have a directory of their own, if there is nothing, and the files in it. -/
def Output.Owns (painter : Option Painter) (charts : List Chart) (tree : FileTree)
    (location place : Location) : Output → Prop
  | .charts => place = location ∧ tree.node? place = none ∨
      ∃ one ∈ painter, ∃ file ∈ Gallery.files one charts, place = file :: location
  | _ => place = location

section Untouched

variable {evidence : Evidence} {settings : Settings} {painter : Option Painter} {place : Location}

theorem node?_writeReported {report : FileFault → ReportError} {tree : FileTree} {path text : String}
    {count : Nat} {location : Location} (htarget : tree.target? path = some location)
    (hplace : place ≠ location) :
    (writeReported report tree path text count).1.node? place = tree.node? place := by
  rw [writeReported]
  cases hwrite : tree.writeFile path (.text text) with
  | error fault => rfl
  | ok written =>
      cases hfault : writeFault? path (tree.node? location) with
      | some fault =>
          rw [writeFile_eq_error htarget _ hfault] at hwrite
          cases hwrite
      | none =>
          obtain ⟨after, hafter, hputs⟩ := writeFile_eq_ok htarget (.text text) hfault
          cases hwrite.symm.trans hafter
          exact (hputs.node?_eq place).trans (if_neg hplace)

theorem Output.node?_write {output : Output} {tree : FileTree} {path : String} {location : Location}
    (hpainter : output = .charts → ∀ one ∈ painter, '/' ∉ one.extension.toList)
    (htarget : tree.target? path = some location)
    (hplace : ¬output.Owns painter (evidence.drawn settings) tree location place) :
    (output.write evidence settings painter path tree).1.node? place = tree.node? place := by
  cases output with
  | points => exact node?_writeReported htarget hplace
  | measures => exact node?_writeReported htarget hplace
  | baseline =>
      simp only [write, writeBaseline_eq]
      exact node?_writeReported htarget hplace
  | charts =>
      rw [Owns, not_or] at hplace
      refine Gallery.node?_write htarget (fun one hone chart hchart => ?_) (fun hat hnone => ?_) ?_
      · exact Gallery.slash_not_mem_fileOf (hpainter rfl one hone)
          (Chart.slash_not_mem_group chart hchart)
      · exact hplace.1 ⟨hat, hnone⟩
      · exact fun one hone file hfile hat => hplace.2 ⟨one, hone, file, hfile, hat⟩
  | comment =>
      simp only [write, writeComment]
      cases evidence.base with
      | error error => rfl
      | ok base => exact node?_writeReported htarget hplace

/-- A place that no output owns is as it was, whatever is written. -/
theorem node?_writeOutputs {tree now : FileTree} {entries : List (Output × String)}
    (hhoused : Housed painter tree entries) (hkeeps : Keeps tree now)
    (hsame : now.node? place = tree.node? place)
    (hplace : ∀ entry ∈ entries, ∀ location ∈ tree.target? entry.2,
      ¬entry.1.Owns painter (evidence.drawn settings) tree location place) :
    (writeOutputs evidence settings painter entries now).1.node? place = tree.node? place := by
  induction entries generalizing now with
  | nil => exact hsame
  | cons entry rest ih =>
      obtain ⟨location, htarget⟩ := Option.isSome_iff_exists.1 (hhoused.held _ List.mem_cons_self)
      have hpainter := hhoused.contained _ List.mem_cons_self
      have hthere := target?_of_keeps hkeeps htarget
      rw [List.forall_mem_cons] at hplace
      have hfree : ¬entry.1.Owns painter (evidence.drawn settings) now location place := by
        have howns := hplace.1 location htarget
        cases houtput : entry.1 <;> rw [houtput] at howns <;>
          simpa only [Output.Owns, hsame] using howns
      rw [writeOutputs_cons]
      refine ih (hhoused.mono (List.subset_cons_self _ _)) ?_ ?_ hplace.2
      · exact hkeeps.trans (entry.1.write_confined evidence settings hpainter hthere).toKeeps
      · exact (Output.node?_write hpainter hthere hfree).trans hsame

end Untouched

/-! ### The whole run -/

namespace Request

/-- A status tells how much its output holds only if the output is complete. -/
def Backs (request : Request) (painter : Option Painter) (tree : FileTree) (status : OutputStatus) :
    Prop :=
  ∀ count, status.result = .ok count → ∃ path,
    request.destinations.path? status.output = some path ∧
      status.output.Holds (request.gather tree) (request.source.harvest tree).results
        request.settings painter path count (request.run painter tree).1

/-- No chart has the file of the index: with the extension `html` no group is called `index`. -/
def IndexApart (request : Request) (painter : Option Painter) (tree : FileTree) : Prop :=
  ∀ one ∈ painter, one.extension = "html" →
    ∀ chart ∈ (request.gather tree).drawn request.settings, chart.group ≠ "index"

/-- What a run answers for. -/
structure Accounts (request : Request) (painter : Option Painter) (tree : FileTree) : Prop where
  /-- The outputs asked for have one status each, in the order in which they are written. -/
  ordered : (request.run painter tree).2.statuses.map OutputStatus.output =
    Output.all.filter fun output => (request.destinations.path? output).isSome
  backed : request.Contained painter → ∀ status ∈ (request.run painter tree).2.statuses,
    (status.output = .charts → request.IndexApart painter tree) → request.Backs painter tree status
  /-- Nothing changes but what belongs to the outputs asked for. -/
  untouched : request.Contained painter → ∀ place,
    (∀ entry ∈ request.destinations.requested, ∀ location ∈ tree.target? entry.2,
      ¬entry.1.Owns painter ((request.gather tree).drawn request.settings) tree location place) →
    (request.run painter tree).1.node? place = tree.node? place
  exitCode : (request.run painter tree).2.exitCode = 0 ↔
    ∀ status ∈ (request.run painter tree).2.statuses, (∃ count, status.result = .ok count) ∨
      ∃ error, status.result = .error error ∧ error.kind = .noPainter
  warnings : (request.run painter tree).2.warnings =
    emptinessWarning (request.source.harvest tree).results request.source.origin ++
      (if request.destinations.comment.isSome then request.source.baseTree?.toList.flatMap fun base =>
        emptinessWarning (base.harvest tree).results base.root else []) ++
      if request.destinations.charts.isSome ∧ painter.isNone then [painterWarning] else []

variable {request : Request} {painter : Option Painter} {tree : FileTree}

theorem warnings_run : (request.run painter tree).2.warnings =
    emptinessWarning (request.source.harvest tree).results request.source.origin ++
      (if request.destinations.comment.isSome then request.source.baseTree?.toList.flatMap fun base =>
        emptinessWarning (base.harvest tree).results base.root else []) ++
      if request.destinations.charts.isSome ∧ painter.isNone then [painterWarning] else [] := by
  have hwarnings : (request.run painter tree).2.warnings =
      (request.gather tree).headWarning.toList ++
        (if request.destinations.comment.isSome then (request.gather tree).baseWarning.toList else []) ++
        (writeOutputs (request.gather tree) request.settings painter request.destinations.requested
          tree).2.filterMap OutputStatus.warning? := rfl
  have hhead : (request.gather tree).headWarning.toList =
      emptinessWarning (request.source.harvest tree).results request.source.origin :=
    request.source.toList_warning_harvest tree
  rw [hwarnings, hhead, toList_baseWarning,
    warnings_writeOutputs request.settings (request.base_ne_noPainter tree),
    Destinations.painterWarnings_requested]

/-- In a contained run over unrelated outputs, the statuses are backed by what is in the final tree. -/
theorem backs_of_mem (hcontained : request.Contained painter)
    (hunrelated : Unrelated tree request.destinations.requested) {status : OutputStatus}
    (hstatus : status ∈ (request.run painter tree).2.statuses)
    (hindex : status.output = .charts → request.IndexApart painter tree) :
    request.Backs painter tree status := by
  intro count hcount
  have hisolated := request.run_isolated hcontained hunrelated
  have hhoused := hcontained.housed hunrelated.held
  rw [show (request.run painter tree).2.statuses = _ from hisolated.statuses] at hstatus
  obtain ⟨entry, hentry, rfl⟩ := List.mem_map.1 hstatus
  obtain ⟨location, htarget⟩ := Option.isSome_iff_exists.1 (hunrelated.held entry hentry)
  refine ⟨entry.2, Destinations.mem_requested.1 hentry, ?_⟩
  refine Output.holds_of_write htarget ?_ (fun hcharts one hone chart hchart => ⟨?_, ?_⟩) hcount
    (hisolated.written entry hentry location htarget)
  · exact (writeOutputs_reached _ _ hhoused (Keeps.refl tree)).keeps
  · exact Gallery.slash_not_mem_fileOf (hhoused.contained entry hentry hcharts one hone)
      (Chart.slash_not_mem_group chart hchart)
  · apply Gallery.fileOf_ne_indexFile
    by_cases hextension : one.extension = "html"
    · exact .inl (hindex hcharts one hone hextension chart hchart)
    · exact .inr hextension

/-- Every run over unrelated outputs in directories that exist accounts for them. -/
theorem run_accounts (request : Request) (painter : Option Painter) (tree : FileTree)
    (hunrelated : Unrelated tree request.destinations.requested) :
    request.Accounts painter tree := by
  refine ⟨?_, ?_, ?_, Outcome.exitCode_eq_zero_iff _, warnings_run⟩
  · exact (map_output_writeOutputs _ _ _ tree).trans (Destinations.outputs_requested _)
  · intro hcontained status hstatus hindex
    exact backs_of_mem hcontained hunrelated hstatus hindex
  · intro hcontained place hplace
    exact node?_writeOutputs (hcontained.housed hunrelated.held) (Keeps.refl tree) rfl hplace

/-! #### All outputs of a comparison, and a log with both runs -/

/-- A log in which a benchmark of the head run has a base run. -/
def bothRunsTree : FileTree :=
  empty.withFile "bench.log" (.text "g mi 1 0 0 0\ng mi_base 2 0 0 0")

def bothRunsRequest : Request where
  source := .log "bench.log"
  destinations := ⟨some "points.json", none, some "base.json", none, some "comment.md"⟩
  settings := .standard

theorem run_accounts_compared :
    (Unrelated comparedTree comparedRequest.destinations.requested ∧
      ((comparedRequest.run (some .svg) comparedTree).2.statuses.map fun status =>
        (status.output, status.result)) =
        [(.points, .ok 1), (.baseline, .ok 1), (.charts, .ok 2), (.comment, .ok 1)] ∧
      ∀ status ∈ (comparedRequest.run (some .svg) comparedTree).2.statuses,
        comparedRequest.Backs (some .svg) comparedTree status) ∧
    Unrelated bothRunsTree bothRunsRequest.destinations.requested ∧
      ((bothRunsRequest.run none bothRunsTree).2.statuses.map fun status =>
        (status.output, status.result)) = [(.points, .ok 1), (.baseline, .ok 2), (.comment, .ok 1)] ∧
      (bothRunsRequest.run none bothRunsTree).1.readFile "base.json" =
        .ok (.text "\x7b\n  \"g/mi\": 1.0,\n  \"g/mi_base\": 2.0\n\x7d") ∧
      ∀ status ∈ (bothRunsRequest.run none bothRunsTree).2.statuses,
        bothRunsRequest.Backs none bothRunsTree status := by
  constructor
  · have hunrelated : Unrelated comparedTree comparedRequest.destinations.requested := by
      decide +kernel
    have hcontained : comparedRequest.Contained (some .svg) := by
      intro _ one hone
      cases hone
      decide
    have hindex : comparedRequest.IndexApart (some .svg) comparedTree := by
      intro one hone hextension
      cases hone
      exact absurd hextension (by decide)
    have haccounts := run_accounts comparedRequest (some .svg) comparedTree hunrelated
    refine ⟨hunrelated, ?_, fun status hstatus => ?_⟩
    · decide +kernel
    · exact haccounts.backed hcontained status hstatus fun _ => hindex
  · have hunrelated : Unrelated bothRunsTree bothRunsRequest.destinations.requested := by
      decide +kernel
    have haccounts := run_accounts bothRunsRequest none bothRunsTree hunrelated
    refine ⟨hunrelated, ?_, ?_, fun status hstatus => ?_⟩
    · decide +kernel
    · decide +kernel
    · exact haccounts.backed (fun _ => nofun) status hstatus fun _ => nofun

/-! #### Files that are replaced by later ones -/

/-- A benchmark whose group is called like the index. -/
def namesakeTree : FileTree := empty.withFile "bench.log" (.text "index mi 1 0 0 0")

def namesakeRequest : Request where
  source := .log "bench.log"
  destinations := ⟨none, none, none, some "charts", none⟩
  settings := .standard

def pagePainter : Painter := ⟨"html", fun chart => .ok (.text chart.title)⟩

theorem exists_status {request : Request} {painter : Option Painter} {tree : FileTree}
    {output : Output} {count : Nat}
    (h : (output, Except.ok count) ∈ (request.run painter tree).2.statuses.map fun status =>
      (status.output, status.result)) :
    ∃ status ∈ (request.run painter tree).2.statuses,
      status.output = output ∧ status.result = .ok count := by
  obtain ⟨status, hstatus, heq⟩ := List.mem_map.1 h
  exact ⟨status, hstatus, congrArg Prod.fst heq, congrArg Prod.snd heq⟩

theorem exists_not_backs_stray :
    ∃ status ∈ (strayRequest.run (some strayPainter) strayTree).2.statuses,
      ¬strayRequest.Backs (some strayPainter) strayTree status := by
  have hstatuses : (Output.points, Except.ok 0) ∈
      (strayRequest.run (some strayPainter) strayTree).2.statuses.map fun status =>
        (status.output, status.result) := by decide +kernel
  have hread : (strayRequest.run (some strayPainter) strayTree).1.readFile "points.json" =
      .ok (.text "chart") := by decide +kernel
  have htext : Feed.pointsText (strayRequest.gather strayTree).head strayRequest.settings ≠
      "chart" := by decide +kernel
  obtain ⟨status, hstatus, houtput, hresult⟩ := exists_status hstatuses
  refine ⟨status, hstatus, fun hbacks => ?_⟩
  obtain ⟨path, hpath, hholds⟩ := hbacks 0 hresult
  rw [houtput] at hpath hholds
  cases hpath
  exact htext (FileContent.text.inj (Except.ok.inj (hholds.1.symm.trans hread)))

theorem exists_not_backs_namesake :
    ∃ status ∈ (namesakeRequest.run (some pagePainter) namesakeTree).2.statuses,
      ¬namesakeRequest.Backs (some pagePainter) namesakeTree status := by
  have hstatuses : (Output.charts, Except.ok 2) ∈
      (namesakeRequest.run (some pagePainter) namesakeTree).2.statuses.map fun status =>
        (status.output, status.result) := by decide +kernel
  have hfiles : Gallery.files pagePainter
      ((namesakeRequest.gather namesakeTree).drawn namesakeRequest.settings) =
      ["index.html", "index.html"] := by decide +kernel
  obtain ⟨status, hstatus, houtput, hresult⟩ := exists_status hstatuses
  refine ⟨status, hstatus, fun hbacks => ?_⟩
  obtain ⟨path, _, hholds⟩ := hbacks 2 hresult
  rw [houtput] at hholds
  obtain ⟨one, hone, hexhibits, _⟩ := hholds
  cases hone
  have hdistinct := hexhibits.distinct
  rw [hfiles] at hdistinct
  exact absurd hdistinct (by decide)

/-- A slash in the extension lets a chart replace another output, and the index replaces the page of a group that is called like it. Neither is noticed. -/
theorem not_backed_of_replaced_files :
    (Unrelated strayTree strayRequest.destinations.requested ∧
      strayRequest.IndexApart (some strayPainter) strayTree ∧
      ∃ status ∈ (strayRequest.run (some strayPainter) strayTree).2.statuses,
        ¬strayRequest.Backs (some strayPainter) strayTree status) ∧
    Unrelated namesakeTree namesakeRequest.destinations.requested ∧
      namesakeRequest.Contained (some pagePainter) ∧
      ∃ status ∈ (namesakeRequest.run (some pagePainter) namesakeTree).2.statuses,
        ¬namesakeRequest.Backs (some pagePainter) namesakeTree status := by
  refine ⟨⟨by decide +kernel, ?_, exists_not_backs_stray⟩, by decide +kernel, ?_,
    exists_not_backs_namesake⟩
  · intro one hone hextension
    cases hone
    exact absurd hextension (by decide)
  · intro _ one hone
    cases hone
    decide

end Request

end BenchReport

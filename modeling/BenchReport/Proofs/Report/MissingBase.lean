import BenchReport.Proofs.Report.Isolation
import BenchReport.Proofs.Results.Halves

/-!
# A comparison without a base

A comment on a comparison needs a base run. Where there is none to be had, the comment alone is refused: a missing input is its status and the exit code is one, while the tree and all other outputs are as if no comment had been asked for. A pass over a tree or a log never fails, though: one that finds nothing yields no results and a warning that names where it looked.
-/

namespace BenchReport

/-! ### Sources without a base -/

namespace Source

/-- The ways for the base run of a source not to be there. -/
inductive LacksBase (settings : Settings) (tree : FileTree) : Source → Prop where
  | unnamed (head : EstimateTree) : LacksBase settings tree (.estimates head .absent)
  | snapshotGone (head : EstimateTree) (path : String) (hgone : tree.exists? path = false) :
    LacksBase settings tree (.estimates head (.snapshot path))
  | directoryGone (head : EstimateTree) (path : String) (hgone : tree.exists? path = false) :
    LacksBase settings tree (.estimates head (.directory path))
  | logGone (path : String) (hgone : tree.exists? path = false) : LacksBase settings tree (.log path)
  | unmarked (path : String)
    (hunmarked : ∀ run ∈ (RunLog.parse (RunLog.textAt tree path)).runs,
      Results.baseName? settings.baseSuffix run.name = none) :
    LacksBase settings tree (.log path)

/-- The ways that refuse a comparison, with the errors that say so. A log is refused when it has runs and none of them is a base run. -/
inductive Refused (settings : Settings) (tree : FileTree) : Source → ReportError → Prop where
  | unnamed (head : EstimateTree) : Refused settings tree (.estimates head .absent) .noBase
  | snapshotGone (head : EstimateTree) (path : String) (hgone : tree.exists? path = false) :
    Refused settings tree (.estimates head (.snapshot path)) (.snapshotMissing path)
  | unmarked (path : String) (hruns : (RunLog.parse (RunLog.textAt tree path)).runs ≠ [])
    (hunmarked : ∀ run ∈ (RunLog.parse (RunLog.textAt tree path)).runs,
      Results.baseName? settings.baseSuffix run.name = none) :
    Refused settings tree (.log path) (.noBaseRuns settings.baseSuffix)

/-- Where a pass for the base run finds nothing: no directory, or a log without runs, be it there or not. -/
inductive Fruitless (tree : FileTree) : Source → String → Prop where
  | directory (head : EstimateTree) (path : String) (hgone : tree.isDirectory path = false) :
    Fruitless tree (.estimates head (.directory path)) path
  | log (path : String) (hempty : (RunLog.parse (RunLog.textAt tree path)).runs = []) :
    Fruitless tree (.log path) path

theorem Refused.kind_eq {settings : Settings} {tree : FileTree} {source : Source}
    {error : ReportError} (h : Refused settings tree source error) : error.kind = .missingInput := by
  cases h <;> rfl

end Source

/-! ### Passes that find nothing -/

theorem Harvest.warning_of_empty {results : Results} (hempty : results = .empty) (skipped : Nat)
    (source : String) :
    (Harvest.ofResults results skipped source).warning =
      some ("no benchmark results found in " ++ source) := by
  rw [hempty]
  rfl

theorem EstimateTree.warning_of_not_isDirectory {source : EstimateTree} {tree : FileTree}
    (h : tree.isDirectory source.root = false) :
    (source.harvest tree).warning = some ("no benchmark results found in " ++ source.root) := by
  have hmet : tree.met source.root = [] := by
    rw [FileTree.met]
    cases hlocate : tree.locate source.root with
    | error fault => rfl
    | ok location =>
        refine if_neg fun hdirectory => ?_
        rw [FileTree.isDirectory, FileTree.lookup, hlocate] at h
        simp [bind, Except.bind, hdirectory] at h
  rw [harvest, hmet]
  exact Harvest.warning_of_empty rfl _ _

theorem RunLog.results_harvest (tree : FileTree) (path : String) :
    (harvest tree path).results = resultsOf (parse (textAt tree path)).runs := by
  simp only [harvest, Harvest.ofResults]

theorem RunLog.warning_of_no_runs {tree : FileTree} {path : String}
    (h : (parse (textAt tree path)).runs = []) :
    (harvest tree path).warning = some ("no benchmark results found in " ++ path) := by
  have hempty : resultsOf (parse (textAt tree path)).runs = .empty := by
    rw [h]
    rfl
  simp only [harvest]
  exact Harvest.warning_of_empty hempty _ _

/-- Without a base, a source is refused or its passes find nothing. -/
theorem Source.LacksBase.refused_or_fruitless {settings : Settings} {tree : FileTree}
    {source : Source} (h : source.LacksBase settings tree) :
    (∃ error, source.Refused settings tree error) ∨ ∃ origin, source.Fruitless tree origin := by
  cases h with
  | unnamed head => exact .inl ⟨_, .unnamed head⟩
  | snapshotGone head path hgone => exact .inl ⟨_, .snapshotGone head path hgone⟩
  | directoryGone head path hgone =>
      refine .inr ⟨_, .directory head path ?_⟩
      rw [FileTree.isDirectory]
      rw [FileTree.exists?] at hgone
      cases hlookup : tree.lookup path with
      | error fault => rfl
      | ok node =>
          rw [hlookup] at hgone
          cases hgone
  | logGone path hgone =>
      refine .inr ⟨_, .log path ?_⟩
      rw [FileTree.exists?] at hgone
      have htext : RunLog.textAt tree path = "" := by
        rw [RunLog.textAt, FileTree.readFile]
        cases hlookup : tree.lookup path with
        | error fault => rfl
        | ok node =>
            rw [hlookup] at hgone
            cases hgone
      rw [htext]
      rfl
  | unmarked path hunmarked =>
      cases hruns : (RunLog.parse (RunLog.textAt tree path)).runs with
      | nil => exact .inr ⟨_, .log path hruns⟩
      | cons run rest => exact .inl ⟨_, .unmarked path (by simp [hruns]) hunmarked⟩

/-! ### What a run does without a base -/

theorem Destinations.requested_comment {destinations : Destinations} {path : String}
    (h : destinations.comment = some path) :
    destinations.requested = (destinations.keep (· != .comment)).requested ++ [(.comment, path)] := by
  have hothers : ∀ output ∈ [Output.points, .measures, .baseline, .charts],
      (output != .comment) = true := by decide
  have hpath : destinations.path? .comment = some path := h
  have hsplit : destinations.requested =
      destinations.entriesOf [.points, .measures, .baseline, .charts] ++ [(.comment, path)] :=
    entriesOf_concat hpath [.points, .measures, .baseline, .charts]
  rw [requested_keep, hsplit, List.filter_append, List.filter_eq_self.2 fun entry hentry =>
    hothers entry.1 (mem_of_mem_entriesOf hentry), List.filter_singleton, bne_self_eq_false]
  simp

namespace Request

variable {request : Request} {painter : Option Painter} {tree : FileTree} {error : ReportError}

/-- A run that writes no comment because of an error, and is otherwise the run without the comment. -/
structure RefusesComment (request : Request) (painter : Option Painter) (tree : FileTree)
    (error : ReportError) : Prop where
  status : (request.run painter tree).2.status? .comment = some ⟨.comment, .error error⟩
  exitCode : (request.run painter tree).2.exitCode = 1
  final : (request.run painter tree).1 = ((request.keep (· != .comment)).run painter tree).1
  statuses : (request.run painter tree).2.statuses =
    ((request.keep (· != .comment)).run painter tree).2.statuses ++ [⟨.comment, .error error⟩]

theorem refusesComment_of_base (hasked : request.destinations.comment.isSome)
    (hbase : (request.gather tree).base = .error error) (hkind : error.kind ≠ .noPainter) :
    request.RefusesComment painter tree error := by
  obtain ⟨path, hpath⟩ := Option.isSome_iff_exists.1 hasked
  -- The comment comes last, and writing it fails before anything is written.
  have hrun : ((request.run painter tree).1, (request.run painter tree).2.statuses) =
      (((request.keep (· != .comment)).run painter tree).1,
        ((request.keep (· != .comment)).run painter tree).2.statuses ++
          [⟨.comment, .error error⟩]) := by
    have hall : ((request.run painter tree).1, (request.run painter tree).2.statuses) =
      writeOutputs (request.gather tree) request.settings painter
        request.destinations.requested tree := rfl
    have hwrite (before : FileTree) : Output.comment.write (request.gather tree) request.settings
        painter path before = (before, .error error) := by
      simp only [Output.write, writeComment, hbase]
    rw [hall, Destinations.requested_comment hpath, writeOutputs_append, writeOutputs_cons, soloTree,
      soloStatus, hwrite]
    rfl
  obtain ⟨htree, hstatuses⟩ := Prod.mk.inj hrun
  have hfailed : (⟨.comment, .error error⟩ : OutputStatus).failed = true := by
    rw [OutputStatus.failed]
    exact bne_iff_ne.2 hkind
  refine ⟨?_, ?_, htree, hstatuses⟩
  · rw [Outcome.status?, hstatuses]
    refine find?_statuses _ _ (fun entry hentry => ?_) tree _ []
    rw [keep, Destinations.requested_keep] at hentry
    exact bne_iff_ne.1 (List.mem_filter.1 hentry).2
  · rw [Outcome.exitCode, Outcome.failures, hstatuses, List.filter_append,
      List.filter_cons_of_pos hfailed, if_neg (by simp)]

theorem base_of_refused (h : request.source.Refused request.settings tree error) :
    (request.gather tree).base = .error error := by
  obtain ⟨source, destinations, settings⟩ := request
  cases h with
  | unnamed head => rfl
  | snapshotGone head path hgone =>
      have hload : Results.ofSnapshot tree path = .error (.snapshotMissing path) := by
        simp only [Results.ofSnapshot, hgone, Bool.not_false, if_true]
      exact hload
  | unmarked path hruns hunmarked =>
      have hnames : ∀ name ∈ (RunLog.resultsOf (RunLog.parse (RunLog.textAt tree path)).runs).keys,
          Results.baseName? settings.baseSuffix name = none := by
        intro name hname
        rw [SortedMap.mem_keys_iff_contains, RunLog.resultsOf, SortedMap.contains_ofList_iff,
          List.map_map] at hname
        obtain ⟨run, hrun, rfl⟩ := List.mem_map.1 hname
        exact hunmarked run hrun
      obtain ⟨hbase, hhead⟩ := Results.halves_of_no_base hnames
      have hfound : (RunLog.resultsOf (RunLog.parse (RunLog.textAt tree path)).runs).isEmpty = false := by
        obtain ⟨run, hrun⟩ := List.exists_mem_of_ne_nil _ hruns
        have hthere : (RunLog.resultsOf (RunLog.parse (RunLog.textAt tree path)).runs).contains
            run.name = true := by
          rw [RunLog.resultsOf, SortedMap.contains_ofList_iff, List.map_map]
          exact List.mem_map_of_mem hrun
        exact SortedMap.isEmpty_eq_false_of_contains hthere
      simp only [gather, findBase, Source.harvest, RunLog.results_harvest, hbase, hhead, hfound]
      rfl

theorem mem_warnings_of_fruitless {origin : String} (hasked : request.destinations.comment.isSome)
    (h : request.source.Fruitless tree origin) :
    "no benchmark results found in " ++ origin ∈ (request.run painter tree).2.warnings := by
  have hwarnings : (request.run painter tree).2.warnings =
      (request.gather tree).headWarning.toList ++
        (if request.destinations.comment.isSome then (request.gather tree).baseWarning.toList else []) ++
        (request.run painter tree).2.statuses.filterMap OutputStatus.warning? := rfl
  rw [hwarnings, if_pos hasked, List.mem_append, List.mem_append, Option.mem_toList,
    Option.mem_toList]
  obtain ⟨source, destinations, settings⟩ := request
  simp only at h
  cases h with
  | directory head _ hgone =>
      simp only [gather, findBase]
      exact .inl (.inr (EstimateTree.warning_of_not_isDirectory hgone))
  | log _ hempty =>
      simp only [gather, Source.harvest]
      exact .inl (.inl (RunLog.warning_of_no_runs hempty))

/-- What becomes of a comment that is asked for where there is no base. -/
theorem comment_without_base (request : Request) (painter : Option Painter) (tree : FileTree)
    (hasked : request.destinations.comment.isSome) :
    (request.source.LacksBase request.settings tree →
      (∃ error, request.source.Refused request.settings tree error) ∨
        ∃ origin, request.source.Fruitless tree origin) ∧
    (∀ error, request.source.Refused request.settings tree error →
      error.kind = .missingInput ∧ request.RefusesComment painter tree error) ∧
    ∀ origin, request.source.Fruitless tree origin →
      "no benchmark results found in " ++ origin ∈ (request.run painter tree).2.warnings := by
  refine ⟨fun h => h.refused_or_fruitless, fun error h => ⟨h.kind_eq, ?_⟩,
    fun origin h => mem_warnings_of_fruitless hasked h⟩
  refine refusesComment_of_base hasked (base_of_refused h) ?_
  rw [h.kind_eq]
  decide

theorem not_refusesComment_of_exitCode (h : (request.run painter tree).2.exitCode = 0) :
    ¬∃ error, request.RefusesComment painter tree error := by
  rintro ⟨error, hrefused⟩
  exact absurd (h.symm.trans hrefused.exitCode) (by decide)

/-! #### A base under a wrong path -/

/-- A head run and a log without runs. -/
def headOnlyTree : FileTree :=
  (FileTree.empty.withFile "head/g/mi/new/estimates.json"
    (.text "\x7b\"median\": \x7b\"point_estimate\": 2\x7d\x7d")).withFile "empty.log" (.text "")

/-- Compares the head run with a base. -/
def headAgainst (base : BaseSource) : Source :=
  .estimates ⟨"head", EstimateTree.defaultStatistic⟩ base

def commentOn (source : Source) : Request where
  source := source
  destinations := ⟨none, none, none, none, some "comment.md"⟩
  settings := .standard

theorem comment_without_base_snapshot :
    (commentOn (headAgainst (.snapshot "base.json"))).destinations.comment.isSome ∧
      (commentOn (headAgainst (.snapshot "base.json"))).RefusesComment none headOnlyTree
        (.snapshotMissing "base.json") := by
  have hgone : headOnlyTree.exists? "base.json" = false := by decide +kernel
  have hrefused := (comment_without_base (commentOn (headAgainst (.snapshot "base.json"))) none
    headOnlyTree rfl).2.1 _ (.snapshotGone _ "base.json" hgone)
  exact ⟨rfl, hrefused.2⟩

/-- No directory, no log and a log without runs are no reasons to refuse a comment. -/
theorem not_refused_of_wrong_path :
    ((headAgainst (.directory "base")).LacksBase .standard headOnlyTree ∧
      ¬∃ error, (commentOn (headAgainst (.directory "base"))).RefusesComment none headOnlyTree error) ∧
    (Source.LacksBase .standard headOnlyTree (.log "bench.log") ∧
      ¬∃ error, (commentOn (.log "bench.log")).RefusesComment none headOnlyTree error) ∧
    Source.LacksBase .standard headOnlyTree (.log "empty.log") ∧
      ¬∃ error, (commentOn (.log "empty.log")).RefusesComment none headOnlyTree error := by
  have hruns : (RunLog.parse (RunLog.textAt headOnlyTree "empty.log")).runs = [] := by decide +kernel
  have hbase : headOnlyTree.exists? "base" = false := by decide +kernel
  have hlog : headOnlyTree.exists? "bench.log" = false := by decide +kernel
  refine ⟨⟨.directoryGone _ _ hbase, ?_⟩, ⟨.logGone _ hlog, ?_⟩, .unmarked _ ?_, ?_⟩
  · exact not_refusesComment_of_exitCode (by decide +kernel)
  · exact not_refusesComment_of_exitCode (by decide +kernel)
  · rw [hruns]
    exact List.forall_mem_nil _
  · exact not_refusesComment_of_exitCode (by decide +kernel)

end Request

end BenchReport

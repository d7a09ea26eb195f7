import BenchReport.Proofs.Report.Isolation
import BenchReport.Proofs.Results.Snapshot
import BenchReport.Proofs.Source.EstimateTree

/-!
# A snapshot stands for its tree

A run over an estimate tree leaves a snapshot of exactly what it harvested there, and the values are finite, so the snapshot is read back without loss. As long as neither the tree nor the snapshot changes, a later run finds the same base in both and writes the same comment. It may replace the snapshot by its own, because it has read the old one by then. What can come in between is an output of the first run itself: outputs go where they are sent, into the tree as well, and the charts and the comment come after the snapshot.
-/

namespace BenchReport

open FileTree

/-! ### Evidence -/

section Warning

variable (evidence : Evidence) (warning : Option String) (settings : Settings)
  (painter : Option Painter)

/-- Outputs take no notice of the warning about the base. -/
theorem Output.write_baseWarning (output : Output) (path : String) (tree : FileTree) :
    output.write { evidence with baseWarning := warning } settings painter path tree =
      output.write evidence settings painter path tree := by
  cases output <;> rfl

theorem soloStatus_baseWarning (tree : FileTree) (entry : Output × String) :
    soloStatus { evidence with baseWarning := warning } settings painter tree entry =
      soloStatus evidence settings painter tree entry := by
  rw [soloStatus, soloStatus, Output.write_baseWarning]

theorem soloTree_baseWarning (tree : FileTree) (entry : Output × String) :
    soloTree { evidence with baseWarning := warning } settings painter tree entry =
      soloTree evidence settings painter tree entry := by
  rw [soloTree, soloTree, Output.write_baseWarning]

theorem writeOutputs_baseWarning (entries : List (Output × String)) (tree : FileTree) :
    writeOutputs { evidence with baseWarning := warning } settings painter entries tree =
      writeOutputs evidence settings painter entries tree := by
  induction entries generalizing tree with
  | nil => rfl
  | cons entry rest ih =>
      rw [writeOutputs_cons, writeOutputs_cons, soloStatus_baseWarning, soloTree_baseWarning, ih]

end Warning

namespace Request

/-! ### The run that writes the snapshot -/

/-- A run over a tree of estimates has written its baseline to a path. -/
structure Snapshots (request : Request) (painter : Option Painter) (tree : FileTree)
    (source : EstimateTree) (path : String) : Prop where
  harvests : ∃ base, request.source = .estimates source base
  asked : request.destinations.baseline = some path
  written : ∃ count, (request.run painter tree).2.status? .baseline = some ⟨.baseline, .ok count⟩

/-- The tree right after a run has written its baseline. -/
def afterBaseline (request : Request) (painter : Option Painter) (tree : FileTree) : FileTree :=
  (writeOutputs (request.gather tree) request.settings painter
    (request.destinations.entriesOf [.points, .measures, .baseline]) tree).1

/-- In a later tree, the estimates are as they were before a run, and a file is as it was right after the run had written its baseline. -/
structure Intact (request : Request) (painter : Option Painter) (tree : FileTree)
    (root path : String) (later : FileTree) : Prop where
  estimates : Unchanged root tree later
  file : later.readFile path = (request.afterBaseline painter tree).readFile path

section Snapshots

variable {request : Request} {painter : Option Painter} {tree : FileTree}

/-- A baseline that was written is in its file. -/
theorem node?_of_writeBaseline {before : FileTree} {path : String} {results : Results} {count : Nat}
    (h : (writeBaseline before path results).2 = .ok count) :
    ∃ location, before.Writable path location ∧
      Confined location before (writeBaseline before path results).1 ∧
      (writeBaseline before path results).1.node? location =
        some (.file (.text results.snapshotText)) := by
  cases hsave : results.saveSnapshot before path with
  | error error =>
      rw [writeBaseline, hsave] at h
      cases h
  | ok written =>
      obtain ⟨location, hplace⟩ := Results.writable_of_saveSnapshot hsave
      obtain ⟨after, hsaved, hconfined, hnode⟩ := Results.saveSnapshot_of_writable hplace results
      cases hsave.symm.trans hsaved
      rw [writeBaseline, hsave]
      exact ⟨location, hplace, hconfined, hnode⟩

variable {source : EstimateTree} {path : String}

theorem snapshots_of_status {base : BaseSource} (count : Nat)
    (hsource : request.source = .estimates source base)
    (hasked : request.destinations.baseline = some path)
    (hstatus : ((request.run painter tree).2.status? .baseline).map
      (fun status => (status.output, status.result)) = some (.baseline, .ok count)) :
    request.Snapshots painter tree source path := by
  obtain ⟨⟨output, result⟩, hfound, hcount⟩ := Option.map_eq_some_iff.1 hstatus
  cases hcount
  exact ⟨⟨base, hsource⟩, hasked, ⟨count, hfound⟩⟩

variable (h : request.Snapshots painter tree source path)

include h

theorem Snapshots.harvested :
    (request.gather tree).harvested = (source.harvest tree).results := by
  obtain ⟨base, hsource⟩ := h.harvests
  rw [gather, hsource]
  rfl

/-- The file holds the snapshot of what was harvested. -/
theorem Snapshots.readFile_afterBaseline :
    (request.afterBaseline painter tree).readFile path =
      .ok (.text (source.harvest tree).results.snapshotText) := by
  have hasked : request.destinations.path? .baseline = some path := h.asked
  obtain ⟨before, hbefore, hstatus, _⟩ :=
    run_at hasked [.points, .measures] rfl (by decide) painter tree
  have hafter : request.afterBaseline painter tree =
      (writeBaseline before path (request.gather tree).harvested).1 := by
    have hfront : request.destinations.entriesOf [.points, .measures, .baseline] =
        request.destinations.entriesOf [.points, .measures] ++ [(.baseline, path)] :=
      Destinations.entriesOf_concat hasked [.points, .measures]
    rw [afterBaseline, hfront, writeOutputs_append, writeOutputs_cons, ← hbefore]
    rfl
  obtain ⟨count, hok⟩ := h.written
  obtain ⟨location, hplace, hconfined, hnode⟩ := node?_of_writeBaseline
    (congrArg OutputStatus.result (Option.some.inj (hstatus.symm.trans hok)))
  rw [hafter, ← h.harvested]
  exact hplace.reads hconfined.toKeeps hnode

/-- What is loaded from the snapshot later is what is harvested from the tree later. -/
theorem Snapshots.ofSnapshot {later : FileTree}
    (hintact : request.Intact painter tree source.root path later) :
    Results.ofSnapshot later path = .ok (source.harvest later).results := by
  have hfinite : (source.harvest tree).results.values.all Float.isFinite = true :=
    List.all_eq_true.2 fun value hvalue => EstimateTree.isFinite_of_harvest hvalue
  rw [Results.ofSnapshot_of_readFile (hintact.file.trans h.readFile_afterBaseline), if_pos hfinite,
    EstimateTree.harvest_of_unchanged hintact.estimates]

/-- A run leaves its snapshot and its tree intact if its outputs stay out of the tree and the others away from the snapshot. -/
theorem Snapshots.intact (hundisturbed : request.Undisturbed painter tree .baseline path)
    (hdirectory : tree.isDirectory source.root = true)
    (houtside : ∀ location, tree.locate source.root = .ok location →
      ∀ entry ∈ request.destinations.requested, ∀ place ∈ tree.target? entry.2,
        Apart location place) :
    request.Intact painter tree source.root path (request.run painter tree).1 := by
  have hhoused := hundisturbed.contained.housed hundisturbed.held
  have hreached : Reached tree request.destinations.requested tree (request.run painter tree).1 :=
    writeOutputs_reached _ _ hhoused (Keeps.refl tree)
  obtain ⟨root, hlocate, hnode⟩ := locate_of_isDirectory hdirectory
  refine ⟨unchanged_of_keeps hreached.keeps hlocate hnode
    (hreached.sameBelow (houtside root hlocate)), ?_⟩
  obtain ⟨hstatus, place, htarget, hwritten⟩ := hundisturbed.alone
  obtain ⟨count, hok⟩ := h.written
  have hresult : (writeBaseline tree path (source.harvest tree).results).2 = .ok count := by
    rw [hstatus] at hok
    rw [← h.harvested]
    exact congrArg OutputStatus.result (Option.some.inj hok)
  obtain ⟨location, hplace, _, hfile⟩ := node?_of_writeBaseline hresult
  cases htarget.symm.trans hplace.target
  rw [← h.harvested] at hfile
  rw [h.readFile_afterBaseline, ← h.harvested]
  exact hplace.reads hreached.keeps ((hwritten place (List.suffix_refl place)).symm.trans hfile)

end Snapshots

/-! ### The runs that compare -/

/-- A run has written a comment, or a fault has kept the file from being written. -/
def Comments (request : Request) (painter : Option Painter) (tree : FileTree) (path : String)
    (count : Nat) (text : String) : Prop :=
  ((request.run painter tree).2.status? .comment = some ⟨.comment, .ok count⟩ ∧
      (request.run painter tree).1.readFile path = .ok (.text text)) ∨
    ∃ fault, (request.run painter tree).2.status? .comment =
      some ⟨.comment, .error (.outputUnwritable path fault)⟩

/-- The comment comes last, so it stays as it was written. -/
theorem comments_of_base {request : Request} {tree : FileTree} {path : String} {base : Results}
    (hasked : request.destinations.path? .comment = some path)
    (hbase : (request.gather tree).base = .ok base) (painter : Option Painter) :
    request.Comments painter tree path
      (base.deltas (request.gather tree).head request.settings.threshold).length
      (Markdown.report (base.deltas (request.gather tree).head request.settings.threshold)
        request.settings) := by
  obtain ⟨before, _, hstatus, htree⟩ := run_at hasked [.points, .measures, .baseline, .charts] rfl
    (by decide) painter tree
  rw [Comments, hstatus, htree]
  simp only [soloStatus, soloTree, Output.write, writeComment, hbase, writeText]
  generalize Markdown.report _ request.settings = text
  cases hwrite : before.writeFile path (.text text) with
  | error fault => exact .inr ⟨fault, rfl⟩
  | ok after =>
      obtain ⟨location, hplace⟩ := writable_of_writeFile hwrite
      obtain ⟨written, hwritten, hconfined, hnode⟩ := hplace.write (.text text)
      cases hwrite.symm.trans hwritten
      exact .inl ⟨rfl, hplace.reads hconfined.toKeeps hnode⟩

/-- Two sources that make no difference to the outputs of a run over a tree. With the same destinations, they leave the same tree and the same statuses. With different ones, a comment that is written has the same count and text, and a comment at the same path has the same status if the other outputs do not reach it. -/
structure Interchangeable (one other : Source) (settings : Settings) (painter : Option Painter)
    (tree : FileTree) : Prop where
  outputs : ∀ destinations : Destinations,
    ((Request.mk one destinations settings).run painter tree).1 =
        ((Request.mk other destinations settings).run painter tree).1 ∧
      ((Request.mk one destinations settings).run painter tree).2.statuses =
        ((Request.mk other destinations settings).run painter tree).2.statuses
  text : ∃ count text, ∀ source, source = one ∨ source = other →
    ∀ (destinations : Destinations) (path : String), destinations.comment = some path →
      (Request.mk source destinations settings).Comments painter tree path count text
  comment : ∀ (destinations otherDestinations : Destinations) (path : String),
    (Request.mk one destinations settings).Undisturbed painter tree .comment path →
    (Request.mk other otherDestinations settings).Undisturbed painter tree .comment path →
    ((Request.mk one destinations settings).run painter tree).2.status? .comment =
        ((Request.mk other otherDestinations settings).run painter tree).2.status? .comment ∧
      ∃ location, tree.target? path = some location ∧
        SameBelow location ((Request.mk one destinations settings).run painter tree).1
          ((Request.mk other otherDestinations settings).run painter tree).1

/-- Outputs do not tell sources apart that yield a base and whose evidence differs in the warning about it. -/
theorem interchangeable_of_gather {one other : Source} {settings : Settings} {tree : FileTree}
    {base head : Results}
    (h : ∀ destinations : Destinations,
      (∃ warning, (Request.mk one destinations settings).gather tree =
        { (Request.mk other destinations settings).gather tree with baseWarning := warning }) ∧
      ((Request.mk other destinations settings).gather tree).base = .ok base ∧
      ((Request.mk other destinations settings).gather tree).head = head)
    (painter : Option Painter) : Interchangeable one other settings painter tree := by
  constructor
  · intro destinations
    obtain ⟨⟨warning, hgather⟩, _⟩ := h destinations
    have hwrite := writeOutputs_baseWarning ((Request.mk other destinations settings).gather tree)
      warning settings painter destinations.requested tree
    rw [← hgather] at hwrite
    exact Prod.ext_iff.1 hwrite
  · refine ⟨(base.deltas head settings.threshold).length,
      Markdown.report (base.deltas head settings.threshold) settings, ?_⟩
    intro source hsource destinations path hasked
    obtain ⟨⟨warning, hgather⟩, hbase, hhead⟩ := h destinations
    have hevidence : ((Request.mk source destinations settings).gather tree).base = .ok base ∧
        ((Request.mk source destinations settings).gather tree).head = head := by
      rcases hsource with rfl | rfl
      · rw [hgather]
        exact ⟨hbase, hhead⟩
      · exact ⟨hbase, hhead⟩
    have hpath : (Request.mk source destinations settings).destinations.path? .comment = some path :=
      hasked
    have hcomments := comments_of_base hpath hevidence.1 painter
    rw [hevidence.2] at hcomments
    exact hcomments
  · intro destinations otherDestinations path hone hother
    obtain ⟨⟨warning, hgather⟩, _⟩ := h otherDestinations
    have hevidence : (Request.mk one destinations settings).gather tree = _ := hgather
    obtain ⟨hstatus, location, htarget, hwritten⟩ := hone.alone
    obtain ⟨hstatus', location', htarget', hwritten'⟩ := hother.alone
    cases htarget.symm.trans htarget'
    rw [hevidence] at hstatus hwritten
    rw [soloStatus_baseWarning] at hstatus
    rw [soloTree_baseWarning] at hwritten
    refine ⟨hstatus.trans hstatus'.symm, location, htarget, fun place hplace => ?_⟩
    exact (hwritten place hplace).symm.trans (hwritten' place hplace)

section Compare

variable {request : Request} {painter : Option Painter} {tree later : FileTree}
  {head : EstimateTree} {base snapshot : String}
  (h : request.Snapshots painter tree { head with root := base } snapshot)
  (hintact : request.Intact painter tree base snapshot later)

include h hintact

theorem Snapshots.gather (destinations : Destinations) (settings : Settings) :
    (Request.mk (.estimates head (.snapshot snapshot)) destinations settings).gather later =
      { (Request.mk (.estimates head (.directory base)) destinations settings).gather later with
        baseWarning := none } := by
  rw [Request.gather, Request.gather, findBase, findBase]
  simp only [h.ofSnapshot hintact]
  rfl

/-- Comparing with the snapshot of a tree is comparing with the tree, while both stay as they are. -/
theorem Snapshots.interchangeable (settings : Settings) (laterPainter : Option Painter) :
    Interchangeable (.estimates head (.snapshot snapshot)) (.estimates head (.directory base))
      settings laterPainter later :=
  interchangeable_of_gather (fun destinations =>
    ⟨⟨none, h.gather hintact destinations settings⟩, rfl, rfl⟩) laterPainter

end Compare

/-! #### A snapshot beside two trees -/

/-- Two runs of the same benchmark. -/
def pairedTree : FileTree :=
  (empty.withFile "base/g/mi/new/estimates.json"
    (.text "\x7b\"median\": \x7b\"point_estimate\": 0.1\x7d\x7d")).withFile
    "head/g/mi/new/estimates.json"
    (.text "\x7b\"median\": \x7b\"point_estimate\": 0.2\x7d\x7d")

def snapshotRequest : Request where
  source := .estimates ⟨"base", EstimateTree.defaultStatistic⟩ .absent
  destinations := ⟨some "points.json", none, some "base.json", none, none⟩
  settings := .standard

/-- Compares with the snapshot and replaces it. -/
def replacingRequest : Request where
  source := .estimates ⟨"head", EstimateTree.defaultStatistic⟩ (.snapshot "base.json")
  destinations := ⟨none, none, some "base.json", none, some "comment.md"⟩
  settings := .standard

theorem interchangeable_of_pairedTree :
    let source : EstimateTree := ⟨"base", EstimateTree.defaultStatistic⟩
    let later := (snapshotRequest.run none pairedTree).1
    (snapshotRequest.Snapshots none pairedTree source "base.json" ∧
      snapshotRequest.Intact none pairedTree "base" "base.json" later) ∧
    Interchangeable replacingRequest.source
      (.estimates ⟨"head", EstimateTree.defaultStatistic⟩ (.directory "base")) .standard none
      later ∧
    (replacingRequest.run none later).2.statuses.map OutputStatus.result = [.ok 1, .ok 1] ∧
    (replacingRequest.run none later).1.readFile "comment.md" = .ok (.text ("## Benchmark Comparison\n\n" ++
      "**tracked variants:** \u26a0\ufe0f 1 regressed, 0 unchanged (>5% threshold)\n\n" ++
      "> \u26a0\ufe0f **Performance regressions detected in tracked variants.** Please review below.\n\n" ++
      "<details><summary>Full results</summary>\n\n### g\n\n" ++
      "| Allocator | Param | Base | Head | Change |\n" ++
      "|-----------|-------|-----:|-----:|-------:|\n" ++
      "| mi | - | 0.1 ns | 0.2 ns | +100.0% \u26a0\ufe0f |\n\n</details>")) := by
  intro source later
  have hundisturbed : snapshotRequest.Undisturbed none pairedTree .baseline "base.json" := by
    refine ⟨by decide, fun _ _ hnone => ?_, by decide +kernel, by decide +kernel⟩
    cases hnone
  have hsnapshots : snapshotRequest.Snapshots none pairedTree source "base.json" := by
    refine snapshots_of_status 1 rfl rfl ?_
    decide +kernel
  have hlocate : pairedTree.locate "base" = .ok ["base"] := by decide +kernel
  have hintact : snapshotRequest.Intact none pairedTree "base" "base.json" later := by
    refine hsnapshots.intact hundisturbed (by decide +kernel) fun location hlocation => ?_
    cases hlocate.symm.trans hlocation
    decide +kernel
  refine ⟨⟨hsnapshots, hintact⟩, hsnapshots.interchangeable hintact .standard none, ?_, ?_⟩
  · decide +kernel
  · decide +kernel

/-! #### A base that the run overwrites -/

/-- Two runs of different benchmarks. -/
def separateTree : FileTree :=
  (empty.withFile "base/g/mi/new/estimates.json"
    (.text "\x7b\"median\": \x7b\"point_estimate\": 0.1\x7d\x7d")).withFile
    "head/h/mi/new/estimates.json"
    (.text "\x7b\"median\": \x7b\"point_estimate\": 0.2\x7d\x7d")

/-- Sends the points into the tree that they come from. -/
def overwritingRequest : Request where
  source := .estimates ⟨"base", EstimateTree.defaultStatistic⟩ .absent
  destinations := ⟨some "base/g/mi/new/estimates.json", none, some "base.json", none, none⟩
  settings := .standard

/-- That the snapshot lies outside both trees is not enough for the same status of the comment: the run may have changed its tree otherwise. -/
theorem not_sameComment_of_overwritten_base :
    ¬∀ (request : Request) (painter laterPainter : Option Painter) (tree : FileTree)
      (head : EstimateTree) (base snapshot : String) (destinations : Destinations)
      (settings : Settings),
      request.Snapshots painter tree { head with root := base } snapshot →
      (∀ root, root = head.root ∨ root = base → ∀ location, tree.locate root = .ok location →
        ∀ place ∈ tree.target? snapshot, Apart location place) →
      ((Request.mk (.estimates head (.snapshot snapshot)) destinations settings).run laterPainter
          (request.run painter tree).1).2.status? .comment =
        ((Request.mk (.estimates head (.directory base)) destinations settings).run laterPainter
          (request.run painter tree).1).2.status? .comment := by
  intro h
  have hsnapshots : overwritingRequest.Snapshots none separateTree
      ⟨"base", EstimateTree.defaultStatistic⟩ "base.json" := by
    refine snapshots_of_status 1 rfl rfl ?_
    decide +kernel
  have hsame := h overwritingRequest none none separateTree
    ⟨"head", EstimateTree.defaultStatistic⟩ "base" "base.json"
    ⟨none, none, none, none, some "comment.md"⟩ .standard hsnapshots ?_
  · -- The snapshot has the benchmark of the base, and the tree has lost it.
    exact absurd (congrArg (Option.map OutputStatus.result) hsame) (by decide +kernel)
  · have hhead : separateTree.locate "head" = .ok ["head"] := by decide +kernel
    have hbase : separateTree.locate "base" = .ok ["base"] := by decide +kernel
    rintro root (rfl | rfl) location hlocation
    · cases hhead.symm.trans hlocation
      decide +kernel
    · cases hbase.symm.trans hlocation
      decide +kernel

end Request

end BenchReport

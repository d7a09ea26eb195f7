import BenchReport.Chart.Gallery
import BenchReport.Feed
import BenchReport.Markdown
import BenchReport.Report.Request

/-!
# Report runs

A run gathers its evidence and writes each output from it. What an output holds depends on the evidence and the settings alone, so no output can spoil another; one that fails is reported and the next is written all the same.
-/

namespace BenchReport

/-- What became of an output: how many points, files or deltas it has, or why there is none. -/
structure OutputStatus where
  output : Output
  result : Except ReportError Nat

namespace OutputStatus

/-- A missing painter is no failure: it only leaves the charts out. -/
def failed (status : OutputStatus) : Bool :=
  match status.result with
  | .ok _ => false
  | .error error => error.kind != .noPainter

def warning? (status : OutputStatus) : Option String :=
  match status.result with
  | .ok _ => none
  | .error error => if error.kind = .noPainter then some (error.message .standard) else none

end OutputStatus

structure Outcome where
  headSize : Nat
  warnings : List String
  statuses : List OutputStatus

namespace Outcome

/-- The status of an output, if it was asked for. -/
def status? (outcome : Outcome) (output : Output) : Option OutputStatus :=
  outcome.statuses.find? fun status => status.output == output

def failures (outcome : Outcome) : List OutputStatus := outcome.statuses.filter OutputStatus.failed

def exitCode (outcome : Outcome) : UInt8 := if outcome.failures.isEmpty then 0 else 1

end Outcome

/-! ### Writing one output -/

def writeText (tree : FileTree) (path text : String) (count : Nat) :
    FileTree × Except ReportError Nat :=
  match tree.writeFile path (.text text) with
  | .ok written => (written, .ok count)
  | .error fault => (tree, .error (.outputUnwritable path fault))

def writeBaseline (tree : FileTree) (path : String) (harvested : Results) :
    FileTree × Except ReportError Nat :=
  match harvested.saveSnapshot tree path with
  | .ok written => (written, .ok harvested.size)
  | .error error => (tree, .error error)

def writeCharts (tree : FileTree) (directory : String) (head : Results) (settings : Settings)
    (painter : Option Painter) : FileTree × Except ReportError Nat :=
  let (written, result) :=
    Gallery.write tree (.ofResults head settings.chartVariants) settings painter directory
  (written, result.map List.length)

def writeComment (tree : FileTree) (path : String) (base : Except ReportError Results)
    (head : Results) (settings : Settings) : FileTree × Except ReportError Nat :=
  match base with
  | .error error => (tree, .error error)
  | .ok base =>
    let deltas := base.deltas head settings.threshold
    writeText tree path (Markdown.report deltas settings) deltas.length

def Output.write (output : Output) (evidence : Evidence) (settings : Settings)
    (painter : Option Painter) (path : String) (tree : FileTree) :
    FileTree × Except ReportError Nat :=
  match output with
  | points =>
    writeText tree path (Feed.pointsText evidence.head settings)
      (Feed.points evidence.head settings).length
  | measures =>
    writeText tree path (Feed.measuresText evidence.head settings)
      (Feed.measures evidence.head settings).size
  | baseline => writeBaseline tree path evidence.harvested
  | charts => writeCharts tree path evidence.head settings painter
  | comment => writeComment tree path evidence.base evidence.head settings

/-! ### Writing all outputs -/

def writeOutputs (evidence : Evidence) (settings : Settings) (painter : Option Painter) :
    List (Output × String) → FileTree → FileTree × List OutputStatus
  | [], tree => (tree, [])
  | (output, path) :: rest, tree =>
    let (written, result) := output.write evidence settings painter path tree
    let (final, statuses) := writeOutputs evidence settings painter rest written
    (final, ⟨output, result⟩ :: statuses)

namespace Request

/-- The warnings of a run. The base counts only where it is compared with. -/
def warnings (request : Request) (evidence : Evidence) (statuses : List OutputStatus) :
    List String :=
  evidence.headWarning.toList ++
    (if request.destinations.comment.isSome then evidence.baseWarning.toList else []) ++
    statuses.filterMap OutputStatus.warning?

def run (request : Request) (painter : Option Painter) (tree : FileTree) : FileTree × Outcome :=
  let evidence := request.gather tree
  let (final, statuses) :=
    writeOutputs evidence request.settings painter request.destinations.requested tree
  (final, ⟨evidence.head.size, request.warnings evidence statuses, statuses⟩)

end Request

end BenchReport

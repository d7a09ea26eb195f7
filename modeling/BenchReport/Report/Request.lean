import BenchReport.Results.Snapshot
import BenchReport.Settings.Basic
import BenchReport.Source.EstimateTree
import BenchReport.Source.RunLog

/-!
# Report requests

What a run is asked for: a source of results, the files to write, and the settings that they share. Everything that a run reads is gathered before it writes anything, so an output may replace an input.
-/

namespace BenchReport

/-! ### Sources -/

/-- Where the base run of an estimate tree comes from. -/
inductive BaseSource where
  | absent
  /-- Another tree. -/
  | directory (path : String)
  /-- Results that an earlier run wrote. -/
  | snapshot (path : String)
  deriving DecidableEq, Repr

inductive Source where
  | estimates (head : EstimateTree) (base : BaseSource)
  /-- A log that holds the base run too, under variants with a suffix. -/
  | log (path : String)
  deriving DecidableEq, Repr

namespace Source

def harvest (tree : FileTree) : Source → Harvest
  | estimates head _ => head.harvest tree
  | log path => RunLog.harvest tree path

def headOf (source : Source) (settings : Settings) (harvested : Results) : Results :=
  match source with
  | estimates .. => harvested
  | log _ => harvested.headHalf settings.baseSuffix

end Source

/-! ### Outputs -/

inductive Output where
  | points
  | measures
  | baseline
  | charts
  | comment
  deriving DecidableEq, Repr

namespace Output

def all : List Output := [points, measures, baseline, charts, comment]

def name : Output → String
  | points => "dashboard json"
  | measures => "bmf json"
  | baseline => "baseline snapshot"
  | charts => "charts"
  | comment => "comparison comment"

end Output

/-- The paths of the outputs that are asked for. That of the charts is a directory. -/
structure Destinations where
  points : Option String
  measures : Option String
  baseline : Option String
  charts : Option String
  comment : Option String
  deriving DecidableEq, Repr

namespace Destinations

def path? (destinations : Destinations) : Output → Option String
  | .points => destinations.points
  | .measures => destinations.measures
  | .baseline => destinations.baseline
  | .charts => destinations.charts
  | .comment => destinations.comment

/-- The outputs asked for and their paths, in the order in which they are written. -/
def requested (destinations : Destinations) : List (Output × String) :=
  Output.all.filterMap fun output => (destinations.path? output).map (output, ·)

end Destinations

structure Request where
  source : Source
  destinations : Destinations
  settings : Settings

/-! ### Evidence -/

/-- What a run found in its inputs. -/
structure Evidence where
  harvested : Results
  head : Results
  base : Except ReportError Results
  headWarning : Option String
  baseWarning : Option String

namespace Request

/-- The run to compare with, and the warning about it. A log with a head run but without a base run has none; a tree without results is an empty one. -/
def findBase (request : Request) (tree : FileTree) (harvested : Results) :
    Except ReportError Results × Option String :=
  match request.source with
  | .log _ =>
    let base := harvested.baseHalf request.settings.baseSuffix
    let head := harvested.headHalf request.settings.baseSuffix
    if base.isEmpty && !head.isEmpty then (.error (.noBaseRuns request.settings.baseSuffix), none)
    else (.ok base, none)
  | .estimates head (.directory path) =>
    let harvest := { head with root := path }.harvest tree
    (.ok harvest.results, harvest.warning)
  | .estimates _ (.snapshot path) => (Results.ofSnapshot tree path, none)
  | .estimates _ .absent => (.error .noBase, none)

def gather (request : Request) (tree : FileTree) : Evidence :=
  let harvest := request.source.harvest tree
  let found := request.findBase tree harvest.results
  { harvested := harvest.results
    head := request.source.headOf request.settings harvest.results
    base := found.1
    headWarning := harvest.warning
    baseWarning := found.2 }

end Request

end BenchReport

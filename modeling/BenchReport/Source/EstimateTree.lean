import BenchReport.FileTree.Document
import BenchReport.FileTree.Walk
import BenchReport.Source.Harvest

/-!
# Estimate trees

The output directory of the Criterion benchmark harness. The current run of a benchmark lies in `new/estimates.json` below the directories that name it; earlier runs lie beside `new` and are not read.

Names are told by the path alone. The path of the root belongs to it, so a root that itself ends in `new` has an estimate that belongs to no benchmark.
-/

namespace BenchReport

structure EstimateTree where
  root : String
  statistic : String
  deriving DecidableEq, Repr

namespace EstimateTree

def defaultStatistic : String := "median"

def pointEstimate? (statistic : String) (document : Json) : Option Float := do
  let estimate ← document.field? statistic
  let point ← estimate.field? "point_estimate"
  point.float?

/-- Whether a path, innermost name first, ends in the estimates of a current run. -/
def endsInEstimate : Location → Bool
  | "estimates.json" :: "new" :: _ => true
  | _ => false

/-- The benchmark of an estimate, given its path from the root, innermost name first. -/
def nameOf? : Location → Option String
  | _ :: _ :: name :: outer => some ("/".intercalate (name :: outer).reverse)
  | _ => none

def estimateIn? (source : EstimateTree) (entry : Location × FileNode) : Option Float := do
  let content ← FileTree.contentMet? source.root entry
  let document ← content.document?
  pointEstimate? source.statistic document

/-- What one current estimate yields. -/
def namedEstimate? (source : EstimateTree) (entry : Location × FileNode) : Option (String × Float) := do
  let name ← nameOf? entry.1
  let value ← source.estimateIn? entry
  return (name, value)

/-- Whether something met is where an estimate of the current run would be. -/
def isCurrent (source : EstimateTree) (entry : Location × FileNode) : Bool :=
  endsInEstimate (entry.1 ++ (Path.components source.root).reverse)

/-- The results among what was met; estimates that yield none are skipped. -/
def harvestOf (source : EstimateTree) (entries : List (Location × FileNode)) : Harvest :=
  let estimates := entries.filter source.isCurrent
  let named := estimates.filterMap source.namedEstimate?
  .ofResults (.ofList named) (estimates.length - named.length) source.root

def harvest (source : EstimateTree) (tree : FileTree) : Harvest :=
  source.harvestOf (tree.met source.root)

end EstimateTree

end BenchReport

import BenchReport.AxisKey
import BenchReport.Results.Basic

/-!
# Panels

Results regrouped for charts. Each group of benchmarks is a panel; a panel has a cluster of values for each parameter, and a cluster has a value for each variant.
-/

namespace BenchReport

abbrev Cluster := SortedMap String Float

abbrev Panel := SortedMap AxisKey Cluster

abbrev Panels := SortedMap String Panel

namespace Panel

def hasParameters (panel : Panel) : Bool := panel.keys.any fun key => key != .absent

def variants (panel : Panel) : SortedSet String :=
  .ofList (panel.values.flatMap SortedMap.keys)

def allValues (panel : Panel) : List Float := panel.values.flatMap SortedMap.values

def add (panel : Panel) (key : AxisKey) (variant : String) (value : Float) : Panel :=
  panel.update key .empty fun cluster => cluster.insert variant value

end Panel

namespace Panels

/-- Files one result under its group, parameter and variant, over an earlier one at the same place. -/
def add (panels : Panels) (name : String) (value : Float) : Panels :=
  let parts := NameParts.ofName name
  panels.update parts.group .empty fun panel =>
    panel.add (.ofSegment parts.parameter) parts.variant value

/-- Whether a restriction lets a variant in; without one, all are in. -/
def admits (restriction : Option (SortedSet String)) (variant : String) : Bool :=
  restriction.all fun set => set.contains variant

/-- The panels of some results, filed from the least name to the greatest. -/
def ofResults (results : Results) (restriction : Option (SortedSet String)) : Panels :=
  (results.restrict (admits restriction)).entries.foldl
    (fun panels entry => panels.add entry.1 entry.2) .empty

def value? (panels : Panels) (group : String) (key : AxisKey) (variant : String) :
    Option Float := do
  let panel ← panels.get? group
  let cluster ← panel.get? key
  cluster.get? variant

end Panels

/-- The variants in drawing order: those that the preference lists, as it lists them, then the others by name. -/
def drawingOrder (present : SortedSet String) (preference : List String) : List String :=
  preference.filter present.contains ++ present.keys.filter fun variant => !preference.contains variant

end BenchReport

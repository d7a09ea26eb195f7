import BenchReport.Panel
import BenchReport.Settings.Basic
import BenchReport.Text.Title

/-!
# Charts

What a chart shows, before anything is drawn: one chart per panel, in one unit. A group without parameters has a bar per variant; a group with parameters has a cluster of bars per parameter.
-/

namespace BenchReport

structure PlotBar where
  variant : String
  label : String
  color : String
  /-- The value in the unit of the chart. -/
  value : Float
  deriving DecidableEq

structure PlotSeries where
  variant : String
  label : String
  color : String
  /-- A place for each cluster, empty where the variant has no result. -/
  values : List (Option Float)
  deriving DecidableEq

inductive Plot where
  | bars (bars : List PlotBar)
  | clusters (categories : List String) (caption : String) (series : List PlotSeries)
      (logarithmic : Bool)
  deriving DecidableEq

structure Chart where
  /-- The group, which also names the file of the chart. -/
  group : String
  title : String
  valueCaption : String
  unit : DisplayUnit
  plot : Plot
  deriving DecidableEq

namespace Chart

/-- The ratio of the greatest to the least value beyond which an axis is logarithmic. -/
def wideRatio : Float := 10

/-- Whether values are too far apart for a linear axis. The least value counts as at least a billionth. -/
def isWide (values : List Float) : Bool :=
  if (greatest values).isNaN || (least values).isNaN then false
  else wideRatio < greatest values / greater (least values) 1e-9

def ofPlot (group : String) (unit : DisplayUnit) (plot : Plot) : Chart where
  group := group
  title := Text.title group
  valueCaption := "Time (" ++ unit.label ++ ")"
  unit := unit
  plot := plot

/-! ### Groups without parameters -/

def barValues (panel : Panel) (variants : List String) : List Float :=
  variants.map fun variant => ((panel.values.head?).bind fun cluster => cluster.get? variant).getD 0

def plotBar (settings : Settings) (unit : DisplayUnit) (variant : String) (value : Float) : PlotBar :=
  ⟨variant, settings.labelOf variant, settings.colorOf variant, unit.convert value⟩

def ofSingle (settings : Settings) (group : String) (panel : Panel) (variants : List String) : Chart :=
  let values := barValues panel variants
  let unit := DisplayUnit.ofValues settings.profile.unit (values.filter fun value => 0 < value)
  ofPlot group unit (.bars (List.zipWith (plotBar settings unit) variants values))

/-! ### Groups with parameters -/

def plotSeries (settings : Settings) (unit : DisplayUnit) (panel : Panel) (variant : String) :
    PlotSeries where
  variant := variant
  label := settings.labelOf variant
  color := settings.colorOf variant
  values := panel.values.map fun cluster => (cluster.get? variant).map unit.convert

/-- The clusters of a group; the one without a parameter has the name of the group. -/
def ofClusters (settings : Settings) (group : String) (panel : Panel) (variants : List String) :
    Chart :=
  let unit := DisplayUnit.ofValues settings.profile.unit panel.allValues
  ofPlot group unit (.clusters
    (panel.keys.map fun key => key.text?.getD group)
    (settings.axisCaption group)
    (variants.map (plotSeries settings unit panel))
    (isWide panel.allValues))

/-! ### All groups -/

/-- The chart of a group; a group without variants has none. -/
def ofPanel? (settings : Settings) (group : String) (panel : Panel) : Option Chart :=
  let variants := drawingOrder panel.variants settings.displayOrder
  if variants.isEmpty then none
  else if panel.hasParameters then some (ofClusters settings group panel variants)
  else some (ofSingle settings group panel variants)

def ofPanels (settings : Settings) (panels : Panels) : List Chart :=
  panels.entries.filterMap fun entry => ofPanel? settings entry.1 entry.2

end Chart

end BenchReport

import BenchReport.Delta
import BenchReport.Error
import BenchReport.TimeUnit

/-!
# Settings

Which variants are tracked and drawn, in which order, colour and wording, and how values are expressed.
-/

namespace BenchReport

/-- How the values of one kind of source are expressed. -/
structure ValueProfile where
  unit : TimeUnit
  feedUnit : String
  measureKey : String
  places : UInt32
  deriving DecidableEq

structure Settings where
  /-- The relative change beyond which a benchmark is a finding. -/
  threshold : Float
  /-- The variants on dashboards and in counts; without a set, all of them. -/
  trackedVariants : Option (SortedSet String)
  /-- The variants on charts; without a set, all of them. -/
  chartVariants : Option (SortedSet String)
  /-- The variants that are drawn first, in this order. -/
  displayOrder : List String
  colors : SortedMap String String
  labels : SortedMap String String
  /-- The caption of the parameter axis, group by group. -/
  axisCaptions : SortedMap String String
  profile : ValueProfile
  /-- The end of a variant's name that marks base runs in a log. -/
  baseSuffix : String
  reportTitle : String
  /-- How reports name the tracked variants. -/
  trackedHeading : String
  chartsTitle : String
  deriving DecidableEq

namespace Settings

def tracks (settings : Settings) (variant : String) : Bool :=
  settings.trackedVariants.all fun set => set.contains variant

def draws (settings : Settings) (variant : String) : Bool :=
  settings.chartVariants.all fun set => set.contains variant

def fallbackColor : String := "#999999"

def colorOf (settings : Settings) (variant : String) : String :=
  (settings.colors.get? variant).getD fallbackColor

def labelOf (settings : Settings) (variant : String) : String :=
  (settings.labels.get? variant).getD variant

def axisCaption (settings : Settings) (group : String) : String :=
  (settings.axisCaptions.get? group).getD "Parameter"

def thresholdPercent (settings : Settings) : UInt32 :=
  (Binary64.roundHalfAway (settings.threshold * 100)).toUInt32

/-- Whether the threshold is a finite number that is not below zero. -/
def isValid (settings : Settings) : Bool :=
  settings.threshold.isFinite && !decide (settings.threshold < 0)

def checked (settings : Settings) : Except ReportError Settings :=
  if settings.isValid then .ok settings else .error (.thresholdInvalid settings.threshold)

end Settings

end BenchReport

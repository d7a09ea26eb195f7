import BenchReport.Json.Printer
import BenchReport.Settings.Basic

/-!
# Data feeds

Two files for dashboards with the same data, the tracked results rounded to the places of the profile: a list of points, each with its unit, and an object that has one measure under each name.
-/

namespace BenchReport.Feed

def tracked (results : Results) (settings : Settings) : Results :=
  results.restrict settings.tracks

def published (settings : Settings) (value : Float) : Float :=
  roundPlaces value settings.profile.places

/-! ### The list of points -/

structure Point where
  name : String
  unit : String
  value : Float
  deriving DecidableEq

def points (results : Results) (settings : Settings) : List Point :=
  (tracked results settings).entries.map fun entry =>
    ⟨entry.1, settings.profile.feedUnit, published settings entry.2⟩

def Point.toJson (point : Point) : Json :=
  .object [
    ("name", .string point.name), ("unit", .string point.unit), ("value", .ofFloat point.value)]

def pointsText (results : Results) (settings : Settings) : String :=
  (Json.array ((points results settings).map Point.toJson)).text

/-! ### The object of measures -/

abbrev Measures := SortedMap String (SortedMap String Float)

def measures (results : Results) (settings : Settings) : Measures :=
  (tracked results settings).mapValues fun _ value =>
    SortedMap.empty.insert settings.profile.measureKey (published settings value)

def measureJson (value : Float) : Json := .object [("value", .ofFloat value)]

def measuresText (results : Results) (settings : Settings) : String :=
  (Json.ofMap (Json.ofMap measureJson) (measures results settings)).text

end BenchReport.Feed

import BenchReport.FileTree.Change
import BenchReport.Proofs.Feed
import BenchReport.Proofs.Number.Places
import BenchReport.Settings.Document
import BenchReport.Settings.Preset

/-!
# Numbers in feeds

A feed shows a value as a number exactly if rounding it to the places of the profile stays in the range of doubles. Where it does not, the value that the feed is made from is not finite, and its text says null. So from results that are all finite the values of both feeds are numbers exactly if every tracked one can be rounded.
-/

namespace BenchReport.Feed

/-! ### Values read back -/

/-- The values in a list of points; one that is no number is none. -/
def pointValues? (text : String) : Option (List (Option Float)) :=
  ((Json.read? text).bind Json.array?).map fun items =>
    items.map fun item => (item.field? "value").bind Json.float?

/-- The values in an object of measures, by name and by measure; one that is no number is none. -/
def measureValues? (text : String) : Option (SortedMap String (SortedMap String (Option Float))) :=
  (Json.read? text).bind
    (Json.map? (Json.map? fun measure => (measure.field? "value").map Json.float?))

/-- The number that a feed shows for a value, where there is one. -/
def shown? (settings : Settings) (value : Float) : Option Float :=
  if Roundable settings.profile.places value then some (published settings value) else none

section Shown

variable {settings : Settings} {value : Float} (hfinite : value.isFinite = true)
include hfinite

theorem isFinite_published :
    (published settings value).isFinite = true ↔ Roundable settings.profile.places value :=
  isFinite_roundPlaces_iff hfinite

theorem float?_published :
    (Json.ofFloat (published settings value)).float? = shown? settings value := by
  rw [Results.float?_ofFloat, shown?]
  simp only [isFinite_published hfinite]

end Shown

/-! ### Feeds of finite results -/

section Finite

variable {results : Results} (hfinite : ∀ value ∈ results.values, value.isFinite = true)
  (settings : Settings)
include hfinite

theorem isFinite_of_mem_tracked {value : Float} (h : value ∈ (tracked results settings).values) :
    value.isFinite = true := by
  obtain ⟨entry, hentry, rfl⟩ := List.mem_map.1 h
  exact hfinite _ (List.mem_map_of_mem (List.mem_filter.1 hentry).1)

theorem isFinite_points_iff :
    (∀ point ∈ points results settings, point.value.isFinite = true) ↔
      ∀ value ∈ (tracked results settings).values, Roundable settings.profile.places value := by
  rw [points, SortedMap.values, List.forall_mem_map, List.forall_mem_map]
  apply forall₂_congr
  intro entry hentry
  exact isFinite_published (isFinite_of_mem_tracked hfinite settings (List.mem_map_of_mem hentry))

theorem isFinite_measures_iff :
    (∀ named ∈ (measures results settings).values, ∀ value ∈ named.values, value.isFinite = true) ↔
      ∀ value ∈ (tracked results settings).values, Roundable settings.profile.places value := by
  have hsingle (value : Float) :
      (SortedMap.empty.insert settings.profile.measureKey value).values = [value] := rfl
  rw [measures, SortedMap.values, SortedMap.values, SortedMap.mapValues, List.map_map,
    List.forall_mem_map, List.forall_mem_map]
  apply forall₂_congr
  intro entry hentry
  show (∀ value ∈ (SortedMap.empty.insert settings.profile.measureKey _).values, _) ↔ _
  rw [hsingle, List.forall_mem_singleton]
  exact isFinite_published (isFinite_of_mem_tracked hfinite settings (List.mem_map_of_mem hentry))

theorem pointValues?_pointsText : pointValues? (pointsText results settings) =
    some ((tracked results settings).values.map (shown? settings)) := by
  rw [pointValues?, read?_pointsText, Option.bind_some, Json.array?, Option.map_some, points,
    SortedMap.values, List.map_map, List.map_map, List.map_map]
  congr 1
  apply List.map_congr_left
  intro entry hentry
  exact float?_published (isFinite_of_mem_tracked hfinite settings (List.mem_map_of_mem hentry))

theorem measureValues?_measuresText : measureValues? (measuresText results settings) =
    some ((tracked results settings).mapValues fun _ value =>
      SortedMap.empty.insert settings.profile.measureKey (shown? settings value)) := by
  have hread (named : SortedMap String Float) :
      (Json.ofMap measureJson named).map? (fun measure => (measure.field? "value").map Json.float?) =
        some (named.mapValues fun _ value => (Json.ofFloat value).float?) := by
    apply Json.map?_ofMap
    intro value
    rfl
  rw [measureValues?, read?_measuresText, Option.bind_some, Json.map?_ofMap hread, measures,
    SortedMap.mapValues_mapValues]
  congr 1
  apply SortedMap.mapValues_congr
  intro entry hentry
  rw [← float?_published (isFinite_of_mem_tracked hfinite settings (List.mem_map_of_mem hentry))]
  rfl

/-- The values of both feeds are numbers exactly if all tracked values can be rounded; one by one, a value has a number in the texts if it can be rounded and null if not. -/
theorem numbers_iff_roundable :
    ((∀ point ∈ points results settings, point.value.isFinite = true) ↔
      ∀ value ∈ (tracked results settings).values, Roundable settings.profile.places value) ∧
    ((∀ named ∈ (measures results settings).values,
        ∀ value ∈ named.values, value.isFinite = true) ↔
      ∀ value ∈ (tracked results settings).values, Roundable settings.profile.places value) ∧
    pointValues? (pointsText results settings) =
      some ((tracked results settings).values.map (shown? settings)) ∧
    measureValues? (measuresText results settings) =
      some ((tracked results settings).mapValues fun _ value =>
        SortedMap.empty.insert settings.profile.measureKey (shown? settings value)) :=
  ⟨isFinite_points_iff hfinite settings, isFinite_measures_iff hfinite settings,
    pointValues?_pointsText hfinite settings, measureValues?_measuresText hfinite settings⟩

end Finite

/-! #### A value at the end of the range -/

/-- A value that a hundredfold takes out of the range, and one that is rounded. -/
def spread : Results := .ofList [("g/large", 1e307), ("g/small", 0.125)]

theorem numbers_of_spread :
    (∀ value ∈ spread.values, value.isFinite = true) ∧
    (tracked spread .standard).values.map (shown? .standard) = [none, some 0.13] ∧
    pointValues? (pointsText spread .standard) = some [none, some 0.13] := by
  have hfinite : ∀ value ∈ spread.values, value.isFinite = true := by decide +kernel
  have hshown : (tracked spread .standard).values.map (shown? .standard) = [none, some 0.13] := by
    decide +kernel
  obtain ⟨_, _, hpoints, _⟩ := numbers_iff_roundable hfinite .standard
  rw [hshown] at hpoints
  exact ⟨hfinite, hshown, hpoints⟩

def large : Results := .ofList [("g/mi", 1e307)]

/-- With settings that a file may leave as they are, a finite value becomes infinite and its text null. -/
theorem not_numbers_of_large :
    Settings.standard.patchedBy (FileTree.empty.withFile "report.json" (.text "\x7b\x7d"))
      "report.json" = .ok .standard ∧
    (∀ value ∈ large.values, value.isFinite = true) ∧
    (points large .standard).map (fun point => point.value.isFinite) = [false] ∧
    pointsText large .standard =
      "[\n  \x7b\n    \"name\": \"g/mi\",\n    \"unit\": \"ns\",\n    \"value\": null\n  \x7d\n]" ∧
    measuresText large .standard =
      "\x7b\n  \"g/mi\": \x7b\n    \"latency\": \x7b\n      \"value\": null\n    \x7d\n  \x7d\n\x7d" := by
  decide +kernel

end BenchReport.Feed

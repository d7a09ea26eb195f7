import BenchReport.Proofs.Feed

/-!
# Two feeds with the same data

Both feeds go through the tracked results in name order, so a point and the measure under its name come from one result. Whoever reads the two files therefore finds the same names and the same values, whatever characters stand in names, units and measure keys; only a value that is not finite has no number in the texts, and then neither of them can be read.
-/

namespace BenchReport.Feed

/-! ### Readers -/

def Point.ofJson? (document : Json) : Option Point := do
  let name ← (document.field? "name").bind Json.string?
  let unit ← (document.field? "unit").bind Json.string?
  let value ← (document.field? "value").bind Json.float?
  return ⟨name, unit, value⟩

def readPoints? (text : String) : Option (List Point) :=
  ((Json.read? text).bind Json.array?).bind fun items => items.mapM Point.ofJson?

def measure? (document : Json) : Option Float := (document.field? "value").bind Json.float?

def readMeasures? (text : String) : Option Measures :=
  (Json.read? text).bind (Json.map? (Json.map? measure?))

/-! ### What is read -/

theorem Point.ofJson?_toJson (point : Point) :
    ofJson? point.toJson = if point.value.isFinite then some point else none := by
  have hfields : ofJson? point.toJson =
      (Json.ofFloat point.value).float?.map fun value => ⟨point.name, point.unit, value⟩ := by
    rw [Option.map_eq_bind]
    rfl
  rw [hfields, Results.float?_ofFloat]
  cases point.value.isFinite <;> rfl

theorem measure?_measureJson (value : Float) :
    measure? (measureJson value) = if value.isFinite then some value else none :=
  Results.float?_ofFloat value

variable (results : Results) (settings : Settings)

theorem readPoints?_pointsText :
    readPoints? (pointsText results settings) =
      if (points results settings).all fun point => point.value.isFinite then
        some (points results settings)
      else none := by
  rw [readPoints?, read?_pointsText, Option.bind_some, Json.array?, Option.bind_some,
    mapM_map_encode Point.ofJson?_toJson, List.map_id']

theorem readMeasures?_measuresText :
    readMeasures? (measuresText results settings) =
      if (measures results settings).values.all fun named => named.values.all Float.isFinite then
        some (measures results settings)
      else none := by
  have hnamed (named : SortedMap String Float) :
      (Json.ofMap measureJson named).map? measure? =
        if named.values.all Float.isFinite then some named else none := by
    rw [Json.map?_ofMap_of_valid measure?_measureJson, SortedMap.mapValues_id]
  rw [readMeasures?, read?_measuresText, Option.bind_some, Json.map?_ofMap_of_valid hnamed,
    SortedMap.mapValues_id]

/-! ### What the feeds hold -/

theorem map_name_points :
    (points results settings).map Point.name = (tracked results settings).keys := by
  rw [points, List.map_map, SortedMap.keys]
  rfl

theorem keys_measures : (measures results settings).keys = (tracked results settings).keys := by
  rw [measures, SortedMap.keys, SortedMap.mapValues, List.map_map, SortedMap.keys]
  rfl

theorem mem_keys_tracked {name : String} :
    name ∈ (tracked results settings).keys ↔
      name ∈ results.keys ∧ settings.tracks (Results.variantOf name) = true := by
  rw [tracked, Results.restrict, SortedMap.mem_keys, SortedMap.mem_keys, SortedMap.get?_filter]
  cases results.get? name <;> cases settings.tracks (Results.variantOf name) <;> simp

/-- A point shows a tracked result, and the measure under its name shows it too. -/
theorem exists_of_mem_points {point : Point} (h : point ∈ points results settings) :
    ∃ value, results.get? point.name = some value ∧
      point = ⟨point.name, settings.profile.feedUnit, published settings value⟩ ∧
      (measures results settings).get? point.name =
        some (SortedMap.empty.insert settings.profile.measureKey point.value) := by
  obtain ⟨⟨name, value⟩, hentry, rfl⟩ := List.mem_map.1 h
  have htracked := SortedMap.mem_entries.1 hentry
  refine ⟨value, ?_, rfl, ?_⟩
  · rw [tracked, Results.restrict, SortedMap.get?_filter, Option.filter_eq_some_iff] at htracked
    exact htracked.1
  · rw [measures, SortedMap.get?_mapValues, htracked]
    rfl

/-- The values of the measures are those of the points. -/
theorem all_measures_iff (p : Float → Bool) :
    ((measures results settings).values.all fun named => named.values.all p) =
      (points results settings).all fun point => p point.value := by
  rw [measures, points, SortedMap.values, SortedMap.mapValues, List.map_map, List.all_map,
    List.all_map]
  congr 1
  funext entry
  exact Bool.and_true _

/-- What two feeds owe the results and the settings that they are made from: the tracked names once each, in increasing order and the same in both, and under each name the same rounded result. -/
structure Agree (results : Results) (settings : Settings) (points : List Point)
    (measures : Measures) : Prop where
  ascending : (points.map Point.name).Pairwise (· < ·)
  names : ∀ name, name ∈ points.map Point.name ↔
    name ∈ results.keys ∧ settings.tracks (Results.variantOf name) = true
  sameNames : measures.keys = points.map Point.name
  rounded : ∀ point ∈ points, ∃ value, results.get? point.name = some value ∧
    point.unit = settings.profile.feedUnit ∧
    point.value = roundPlaces value settings.profile.places
  single : ∀ point ∈ points, ∃ named, measures.get? point.name = some named ∧
    named.entries = [(settings.profile.measureKey, point.value)]

theorem agree_points_measures :
    Agree results settings (points results settings) (measures results settings) where
  ascending := by
    rw [map_name_points]
    exact SortedMap.keys_ascending _
  names name := by rw [map_name_points, mem_keys_tracked]
  sameNames := by rw [map_name_points, keys_measures]
  rounded point hpoint := by
    obtain ⟨value, hvalue, hshown, _⟩ := exists_of_mem_points results settings hpoint
    rw [hshown]
    exact ⟨value, hvalue, rfl, rfl⟩
  single point hpoint := by
    obtain ⟨_, _, _, hmeasured⟩ := exists_of_mem_points results settings hpoint
    exact ⟨_, hmeasured, rfl⟩

/-- The two feeds hold the same data, and their texts give it back exactly if all of its values are finite. -/
theorem feeds_agree :
    Agree results settings (points results settings) (measures results settings) ∧
    (readPoints? (pointsText results settings) = some (points results settings) ↔
      ∀ point ∈ points results settings, point.value.isFinite = true) ∧
    (readMeasures? (measuresText results settings) = some (measures results settings) ↔
      ∀ point ∈ points results settings, point.value.isFinite = true) := by
  refine ⟨agree_points_measures results settings, ?_, ?_⟩
  · rw [readPoints?_pointsText, Option.ite_none_right_eq_some, List.all_eq_true, and_iff_left rfl]
  · rw [readMeasures?_measuresText, Option.ite_none_right_eq_some, all_measures_iff,
      List.all_eq_true, and_iff_left rfl]

end BenchReport.Feed

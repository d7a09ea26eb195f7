import BenchReport.Feed
import BenchReport.Proofs.Results.Snapshot

/-!
# Feeds read back

Both feeds are documents of few levels whose numbers have a text, so what is read of them is what was written: a list with one item per point, and an object with one field per name. A snapshot is such an object too. How much a file holds can therefore be counted in its text, without asking the run that wrote it.
-/

namespace BenchReport

/-! ### Counting in a text -/

namespace Json

/-- The length of the list that a text holds. -/
def arrayLength? (text : String) : Option Nat := ((read? text).bind array?).map List.length

/-- The number of names in the object that a text holds. -/
def objectSize? (text : String) : Option Nat :=
  ((read? text).bind (map? some)).map SortedMap.size

/-- The object of a map has as many names as the map. -/
theorem objectSize?_ofMap {α : Type} {encode : α → Json} (h : ∀ value, (encode value).Fits 126)
    (map : SortedMap String α) : objectSize? (ofMap encode map).text = some map.size := by
  rw [objectSize?, read?_text (fits_ofMap h map), Option.bind_some, map?_ofMap fun _ => rfl,
    Option.map_some, SortedMap.mapValues, SortedMap.size, SortedMap.size, List.length_map]

end Json

theorem Results.objectSize?_snapshotText (results : Results) :
    Json.objectSize? results.snapshotText = some results.size :=
  Json.objectSize?_ofMap (fits_ofFloat 126) results

namespace Feed

variable (results : Results) (settings : Settings)

/-! ### The list of points -/

theorem fits_point (depth : Nat) (point : Point) : point.toJson.Fits (depth + 1) := by
  have hstring (text : String) : (Json.string text).Fits depth := by
    cases depth <;> exact trivial
  rw [Point.toJson, Json.Fits, List.forall_mem_cons, List.forall_mem_cons, List.forall_mem_singleton]
  exact ⟨hstring _, hstring _, Results.fits_ofFloat depth _⟩

theorem read?_pointsText : Json.read? (pointsText results settings) =
    some (.array ((points results settings).map Point.toJson)) := by
  refine Json.read?_text fun item hitem => ?_
  obtain ⟨point, _, rfl⟩ := List.mem_map.1 hitem
  exact fits_point 125 point

theorem arrayLength?_pointsText : Json.arrayLength? (pointsText results settings) =
    some (points results settings).length := by
  rw [Json.arrayLength?, read?_pointsText, Option.bind_some, Json.array?, Option.map_some,
    List.length_map]

/-! ### The object of measures -/

theorem fits_measure (depth : Nat) (value : Float) : (measureJson value).Fits (depth + 1) := by
  rw [measureJson, Json.Fits, List.forall_mem_singleton]
  exact Results.fits_ofFloat depth value

theorem read?_measuresText : Json.read? (measuresText results settings) =
    some (Json.ofMap (Json.ofMap measureJson) (measures results settings)) :=
  Json.read?_text (Json.fits_ofMap (fun named => Json.fits_ofMap (fits_measure 124) named) _)

theorem objectSize?_measuresText : Json.objectSize? (measuresText results settings) =
    some (measures results settings).size :=
  Json.objectSize?_ofMap (fun named => Json.fits_ofMap (fits_measure 124) named) _

end Feed

end BenchReport

import BenchReport.Proofs.FileTree.Walk
import BenchReport.Proofs.Json.Reading
import BenchReport.Source.EstimateTree

/-!
# What is harvested from an estimate tree

A harvest depends on nothing but what lies at and below its root, and its values are finite, since they are numbers of documents.
-/

namespace BenchReport.EstimateTree

open FileTree

/-! ### Values -/

theorem isFinite_of_estimateIn? {source : EstimateTree} {entry : Location × FileNode} {value : Float}
    (h : source.estimateIn? entry = some value) : value.isFinite = true := by
  obtain ⟨content, _, h⟩ := Option.bind_eq_some_iff.1 h
  obtain ⟨document, hdocument, h⟩ := Option.bind_eq_some_iff.1 h
  obtain ⟨estimate, hestimate, h⟩ := Option.bind_eq_some_iff.1 h
  obtain ⟨point, hpoint, h⟩ := Option.bind_eq_some_iff.1 h
  have hfits : document.Fits Json.depthLimit := by
    cases content with
    | text source => exact Json.fits_of_read? hdocument
    | binary bytes => cases hdocument
  obtain ⟨_, hestimate⟩ := hfits.field? hestimate
  obtain ⟨_, hpoint⟩ := hestimate.field? hpoint
  exact hpoint.isFinite h

theorem isFinite_of_harvest {source : EstimateTree} {tree : FileTree} {value : Float}
    (h : value ∈ (source.harvest tree).results.values) : value.isFinite = true := by
  obtain ⟨name, hname⟩ := SortedMap.mem_values.1 h
  rw [harvest, harvestOf, Harvest.ofResults, SortedMap.get?_ofList] at hname
  have hmem := List.mem_reverse.1 (SortedMap.lookupEntry_eq_some hname)
  obtain ⟨entry, _, hnamed⟩ := List.mem_filterMap.1 hmem
  obtain ⟨_, _, hnamed⟩ := Option.bind_eq_some_iff.1 hnamed
  obtain ⟨estimate, hestimate, hnamed⟩ := Option.bind_eq_some_iff.1 hnamed
  cases hnamed
  exact isFinite_of_estimateIn? hestimate

/-! ### Later states of the tree -/

theorem harvest_of_unchanged {source : EstimateTree} {before after : FileTree}
    (h : Unchanged source.root before after) : source.harvest after = source.harvest before := by
  rw [harvest, harvest, met_of_unchanged h]

end BenchReport.EstimateTree

import BenchReport.Json.Basic
import BenchReport.Proofs.SortedMap

/-!
# Lists and maps read back

A decoder of one value reads the whole list, or the whole map, that was written of such values. If there are values that it does not take, it reads a list or a map with one of them as none at all: what is read is all of what was written, or nothing.
-/

namespace BenchReport

section List

variable {α β γ : Type} {encode : α → β} {decode : β → Option γ} {valid : α → Bool} {read : α → γ}

/-- A list is read if each of its items is. -/
theorem mapM_map_encode
    (h : ∀ item, decode (encode item) = if valid item then some (read item) else none)
    (items : List α) :
    (items.map encode).mapM decode = if items.all valid then some (items.map read) else none := by
  induction items with
  | nil => rfl
  | cons item rest ih =>
      rw [List.map_cons, List.mapM_cons, h, ih, List.all_cons]
      cases valid item <;> cases rest.all valid <;> rfl

end List

namespace Json

variable {α β : Type} {encode : α → Json} {decode : Json → Option β} {read : α → β}

/-- The object of a map is read as a map, if each of its values is read. -/
theorem map?_ofMap_of_valid {valid : α → Bool}
    (h : ∀ value, decode (encode value) = if valid value then some (read value) else none)
    (map : SortedMap String α) :
    (ofMap encode map).map? decode =
      if map.values.all valid then some (map.mapValues fun _ => read) else none := by
  have hfield (entry : String × α) :
      (decode (encode entry.2)).map (entry.1, ·) =
        if valid entry.2 then some (entry.1, read entry.2) else none := by
    rw [h]
    cases valid entry.2 <;> rfl
  have hfields : (map.entries.map fun entry => (entry.1, encode entry.2)).mapM
        (fun field => (decode field.2).map (field.1, ·)) =
      if map.entries.all fun entry => valid entry.2 then
        some (map.entries.map fun entry => (entry.1, read entry.2))
      else none := mapM_map_encode hfield map.entries
  rw [ofMap, map?, hfields, SortedMap.values, List.all_map]
  simp only [Function.comp_def]
  split
  · rw [Option.map_some]
    exact congrArg some (SortedMap.ofList_entries (map.mapValues fun _ => read))
  · rfl

theorem map?_ofMap (h : ∀ value, decode (encode value) = some (read value))
    (map : SortedMap String α) :
    (ofMap encode map).map? decode = some (map.mapValues fun _ => read) := by
  have hvalid (value : α) :
      decode (encode value) = if (fun _ => true) value then some (read value) else none := by
    rw [h, if_pos rfl]
  rw [map?_ofMap_of_valid hvalid, if_pos (List.all_eq_true.2 fun _ _ => rfl)]

end Json

end BenchReport

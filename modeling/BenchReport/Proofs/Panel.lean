import BenchReport.Panel
import BenchReport.Proofs.SortedMap

/-!
# What panels hold

Panels are filed entry by entry. One step changes the value at one place and makes the panel and the cluster of that place, if they are not there yet; so after all steps a place holds the value of the last kept name that belongs there, and there are a panel for every group and a key for every parameter that some kept name has, and no others.
-/

namespace BenchReport

open SortedMap

section Update

variable {κ α : Type}
variable [LE κ] [LT κ] [DecidableLT κ] [DecidableEq κ] [Std.IsLinearOrder κ] [Std.LawfulOrderLT κ]

theorem SortedMap.getD_get?_update (map : SortedMap κ α) (key other : κ) (default : α) (f : α → α) :
    ((map.update key default f).get? other).getD default =
      if key = other then f ((map.get? other).getD default) else (map.get? other).getD default := by
  rw [update, get?_insert]
  split
  · rename_i h
    rw [h, Option.getD_some]
  · rfl

theorem SortedMap.mem_keys_update {map : SortedMap κ α} {key other : κ} {default : α} {f : α → α} :
    other ∈ (map.update key default f).keys ↔ key = other ∨ other ∈ map.keys := by
  rw [mem_keys, mem_keys, update, get?_insert]
  split <;> simp_all

end Update

namespace Panels

/-- Where a name is filed: under its group, its parameter and its variant. -/
def placeOf (name : String) : String × AxisKey × String :=
  ((NameParts.ofName name).group, .ofSegment (NameParts.ofName name).parameter,
    (NameParts.ofName name).variant)

/-- The parameters of a group, in axis order. -/
def keysOf (panels : Panels) (group : String) : List AxisKey :=
  ((panels.get? group).getD .empty).keys

theorem value?_eq (panels : Panels) (group : String) (key : AxisKey) (variant : String) :
    panels.value? group key variant =
      ((((panels.get? group).getD .empty).get? key).getD .empty).get? variant := by
  rw [value?]
  cases panels.get? group with
  | none => rfl
  | some panel =>
      change ((panel.get? key).bind fun cluster => cluster.get? variant) =
        ((panel.get? key).getD .empty).get? variant
      cases panel.get? key <;> rfl

/-! ### One step -/

section Step

variable (panels : Panels) (name : String) (value : Float)

theorem value?_add (group : String) (key : AxisKey) (variant : String) :
    (panels.add name value).value? group key variant =
      if placeOf name = (group, key, variant) then some value
      else panels.value? group key variant := by
  simp only [value?_eq, add, placeOf, Prod.mk.injEq, getD_get?_update]
  by_cases hgroup : (NameParts.ofName name).group = group
  · simp only [hgroup, if_true, true_and, Panel.add, getD_get?_update]
    by_cases hkey : AxisKey.ofSegment (NameParts.ofName name).parameter = key
    · simp only [hkey, if_true, true_and, get?_insert]
    · simp only [hkey, if_false, false_and]
  · simp only [hgroup, if_false, false_and]

theorem mem_keys_add {group : String} :
    group ∈ (panels.add name value).keys ↔ (placeOf name).1 = group ∨ group ∈ panels.keys := by
  rw [add, mem_keys_update, placeOf]

theorem mem_keysOf_add {group : String} {key : AxisKey} :
    key ∈ (panels.add name value).keysOf group ↔
      ((placeOf name).1 = group ∧ (placeOf name).2.1 = key) ∨ key ∈ panels.keysOf group := by
  rw [keysOf, keysOf, add, getD_get?_update, placeOf]
  split
  · rename_i h
    rw [Panel.add, mem_keys_update]
    simp [h]
  · rename_i h
    simp [h]

end Step

/-! ### All steps -/

section Run

variable (entries : List (String × Float)) (panels : Panels)

theorem value?_foldl (group : String) (key : AxisKey) (variant : String) :
    (entries.foldl (fun panels entry => panels.add entry.1 entry.2) panels).value? group key variant =
      ((entries.reverse.find? fun entry => placeOf entry.1 = (group, key, variant)).map Prod.snd).or
        (panels.value? group key variant) := by
  induction entries generalizing panels with
  | nil => rfl
  | cons entry rest ih =>
      rw [List.foldl_cons, ih, value?_add, List.reverse_cons, List.find?_append]
      cases rest.reverse.find? fun entry => placeOf entry.1 = (group, key, variant) with
      | some found => rfl
      | none =>
          by_cases hplace : placeOf entry.1 = (group, key, variant) <;> simp [hplace]

theorem mem_keys_foldl {group : String} :
    group ∈ (entries.foldl (fun panels entry => panels.add entry.1 entry.2) panels).keys ↔
      (∃ entry ∈ entries, (placeOf entry.1).1 = group) ∨ group ∈ panels.keys := by
  induction entries generalizing panels with
  | nil => simp
  | cons entry rest ih =>
      rw [List.foldl_cons, ih, mem_keys_add, List.exists_mem_cons_iff, ← or_assoc,
        or_comm (a := ∃ entry ∈ rest, _)]

theorem mem_keysOf_foldl {group : String} {key : AxisKey} :
    key ∈ (entries.foldl (fun panels entry => panels.add entry.1 entry.2) panels).keysOf group ↔
      (∃ entry ∈ entries, (placeOf entry.1).1 = group ∧ (placeOf entry.1).2.1 = key) ∨
        key ∈ panels.keysOf group := by
  induction entries generalizing panels with
  | nil => simp
  | cons entry rest ih =>
      rw [List.foldl_cons, ih, mem_keysOf_add, List.exists_mem_cons_iff, ← or_assoc,
        or_comm (a := ∃ entry ∈ rest, _)]

end Run

/-! ### Results -/

section Results

variable (results : Results) (restriction : Option (SortedSet String))

/-- The names that a restriction lets in. -/
def keptNames : List String :=
  results.keys.filter fun name => admits restriction (Results.variantOf name)

theorem keptNames_eq :
    keptNames results restriction =
      (results.restrict (admits restriction)).entries.map Prod.fst := by
  rw [keptNames, keys, List.filter_map]
  rfl

/-- A place holds the value of the last kept name that belongs there. -/
theorem value?_ofResults (group : String) (key : AxisKey) (variant : String) :
    (ofResults results restriction).value? group key variant =
      ((results.restrict (admits restriction)).entries.reverse.find? fun entry =>
        placeOf entry.1 = (group, key, variant)).map Prod.snd := by
  rw [ofResults, value?_foldl]
  exact Option.or_none

theorem isSome_value?_ofResults {group : String} {key : AxisKey} {variant : String} :
    ((ofResults results restriction).value? group key variant).isSome ↔
      ∃ name ∈ keptNames results restriction, placeOf name = (group, key, variant) := by
  rw [value?_ofResults, Option.isSome_map, List.find?_isSome, keptNames_eq]
  simp

theorem mem_keys_ofResults {group : String} :
    group ∈ (ofResults results restriction).keys ↔
      ∃ name ∈ keptNames results restriction, (placeOf name).1 = group := by
  have hnone : group ∉ (empty : Panels).keys := List.not_mem_nil
  rw [ofResults, mem_keys_foldl, or_iff_left hnone, keptNames_eq]
  simp

theorem mem_keysOf_ofResults {group : String} {key : AxisKey} :
    key ∈ (ofResults results restriction).keysOf group ↔
      ∃ name ∈ keptNames results restriction,
        (placeOf name).1 = group ∧ (placeOf name).2.1 = key := by
  have hnone : key ∉ keysOf .empty group := List.not_mem_nil
  rw [ofResults, mem_keysOf_foldl, or_iff_left hnone, keptNames_eq]
  simp

end Results

end Panels

/-! ### Variants -/

theorem mem_drawingOrder {present : SortedSet String} {preference : List String} {variant : String} :
    variant ∈ drawingOrder present preference ↔ variant ∈ present.keys := by
  rw [drawingOrder, List.mem_append, List.mem_filter, List.mem_filter, ← mem_keys_iff_contains]
  by_cases h : variant ∈ preference <;> simp [h]

end BenchReport

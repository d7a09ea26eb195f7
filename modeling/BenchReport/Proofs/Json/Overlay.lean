import BenchReport.Json.Canonical
import BenchReport.Json.Overlay
import BenchReport.Proofs.SortedMap

/-!
# What an overlay holds

A field of an overlay is that of the patch, laid over the one below it if there is one, or else the one below. Only where both are objects does anything of the one below remain. The fields of a canonical document are in order, each once, so looking one up does not depend on the end where the search starts.
-/

namespace BenchReport.Json

open SortedMap

/-! ### Fields in order -/

/-- Fields with increasing names. -/
abbrev Ascending (fields : List (String × Json)) : Prop :=
  fields.Pairwise fun left right => left.1 < right.1

theorem field?_of_ascending {fields : List (String × Json)} (h : Ascending fields) (name : String) :
    (object fields).field? name = lookupEntry name fields :=
  lookupEntry_reverse_entries ⟨fields, h⟩ name

/-- A canonical document has its fields in order, and canonical documents in them. -/
structure IsCanonicalObject (fields : List (String × Json)) : Prop where
  ascending : Ascending fields
  inner : ∀ name value, (object fields).field? name = some value →
    ∃ source : Json, source.canonical = value

theorem isCanonicalObject_of_canonical {source : Json} {fields : List (String × Json)}
    (h : source.canonical = object fields) : IsCanonicalObject fields := by
  cases source with
  | object written =>
      rw [canonical, object.injEq] at h
      have hascending : Ascending fields := h ▸ (ofList (canonicalFields written)).ascending
      refine ⟨hascending, fun name value hvalue => ?_⟩
      have hsource := field?_canonical name (object written)
      rw [canonical, h, hvalue] at hsource
      obtain ⟨inner, _, hinner⟩ := Option.map_eq_some_iff.1 hsource.symm
      exact ⟨inner, hinner⟩
  | _ => simp [canonical] at h

/-! ### Maps of strings -/

theorem mapM_string? {fields : List (String × Json)} {pairs : List (String × String)} :
    (fields.mapM fun entry => (string? entry.2).map (entry.1, ·)) = some pairs ↔
      fields = pairs.map fun pair => (pair.1, string pair.2) := by
  induction fields generalizing pairs with
  | nil => cases pairs <;> simp
  | cons entry rest ih =>
      obtain ⟨name, value⟩ := entry
      rw [List.mapM_cons]
      constructor
      · intro h
        obtain ⟨first, hfirst, h⟩ := Option.bind_eq_some_iff.1 h
        obtain ⟨later, hlater, h⟩ := Option.bind_eq_some_iff.1 h
        obtain ⟨text, htext, rfl⟩ := Option.map_eq_some_iff.1 hfirst
        cases h
        cases value with
        | string source =>
            cases htext
            rw [ih.1 hlater]
            rfl
        | _ => cases htext
      · intro h
        cases pairs with
        | nil => cases h
        | cons pair later =>
            obtain ⟨hentry, hrest⟩ := List.cons.inj h
            cases hentry
            rw [ih.2 hrest]
            rfl

/-- The map that an object holds has its fields, and they are all strings. -/
theorem map?_string_eq_some {fields : List (String × Json)} (h : Ascending fields)
    {map : SortedMap String String} :
    (object fields).map? string? = some map ↔
      ∀ name, lookupEntry name fields = (map.get? name).map string := by
  rw [map?, Option.map_eq_some_iff]
  constructor
  · intro hmap name
    obtain ⟨pairs, hpairs, rfl⟩ := hmap
    rw [mapM_string?] at hpairs
    have hreverse := lookupEntry_reverse_entries ⟨fields, h⟩ name
    rw [get?_ofList, ← lookupEntry_map, List.map_reverse, ← hpairs]
    exact hreverse.symm
  · intro hlookup
    refine ⟨map.entries, mapM_string?.2 ?_, ofList_entries map⟩
    have hstrings : Ascending (map.entries.map fun pair => (pair.1, string pair.2)) :=
      List.pairwise_map.2 map.ascending
    refine congrArg SortedMap.entries (ext_get? fun name => ?_ :
      (⟨fields, h⟩ : SortedMap String Json) = ⟨_, hstrings⟩)
    change lookupEntry name fields = lookupEntry name _
    rw [hlookup, lookupEntry_map]
    rfl

/-- An object of strings is a map of strings. -/
theorem exists_map?_string {fields : List (String × Json)}
    (h : ∀ entry ∈ fields, ∃ text, entry.2 = string text) :
    ∃ map, (object fields).map? string? = some map := by
  have hpairs : ∃ pairs : List (String × String),
      fields = pairs.map fun pair => (pair.1, string pair.2) := by
    induction fields with
    | nil => exact ⟨[], rfl⟩
    | cons entry rest ih =>
        obtain ⟨⟨text, htext⟩, hrest⟩ := List.forall_mem_cons.1 h
        obtain ⟨pairs, hpairs⟩ := ih hrest
        refine ⟨(entry.1, text) :: pairs, ?_⟩
        rw [List.map_cons, ← hpairs, ← htext]
  obtain ⟨pairs, hpairs⟩ := hpairs
  exact ⟨ofList pairs, by rw [map?, mapM_string?.2 hpairs, Option.map_some]⟩

/-! ### Overlays -/

/-- What is laid over anything but an object replaces it. -/
theorem overlay_of_not_object {target : Json} (h : ∀ fields, target ≠ object fields) (patch : Json) :
    target.overlay patch = patch := by
  cases patch with
  | object fields =>
      cases target with
      | object below => exact absurd rfl (h below)
      | _ => rfl
  | _ => rfl

theorem lookupEntry_overlayFields {patch : List (String × Json)} (h : Ascending patch) (name : String)
    (fields : List (String × Json)) :
    lookupEntry name (overlayFields fields patch) =
      match lookupEntry name patch with
      | none => lookupEntry name fields
      | some value =>
        match lookupEntry name fields with
        | none => some value
        | some existing => some (existing.overlay value) := by
  induction patch generalizing fields with
  | nil => rfl
  | cons entry rest ih =>
      obtain ⟨key, value⟩ := entry
      obtain ⟨hkey, hrest⟩ := List.pairwise_cons.1 h
      rw [overlayFields, ih hrest, lookupEntry_insertEntry, lookupEntry]
      by_cases hname : key = name
      · subst hname
        have hlater : lookupEntry key rest = none :=
          lookupEntry_eq_none fun other hother he => Std.lt_irrefl (he ▸ hkey other hother)
        rw [hlater, if_pos rfl, if_pos rfl]
        cases lookupEntry key fields <;> rfl
      · rw [if_neg hname, if_neg hname]

theorem overlayFields_ascending {fields : List (String × Json)} (h : Ascending fields)
    (patch : List (String × Json)) : Ascending (overlayFields fields patch) := by
  induction patch generalizing fields with
  | nil => exact h
  | cons entry rest ih => exact ih (insertEntry_ascending _ _ h)

/-- An object with its fields in order. -/
def IsOrderedObject (document : Json) : Prop := ∃ fields, document = object fields ∧ Ascending fields

/-- A field of an overlay. -/
theorem field?_overlay {document patch : Json} (hdocument : document.IsOrderedObject)
    (hpatch : patch.IsOrderedObject) (name : String) :
    (document.overlay patch).field? name =
      match patch.field? name with
      | none => document.field? name
      | some value =>
        match document.field? name with
        | none => some value
        | some existing => some (existing.overlay value) := by
  obtain ⟨fields, rfl, hfields⟩ := hdocument
  obtain ⟨changes, rfl, hchanges⟩ := hpatch
  rw [overlay, field?_of_ascending (overlayFields_ascending hfields changes),
    field?_of_ascending hfields, field?_of_ascending hchanges, lookupEntry_overlayFields hchanges]

/-- What is laid over strings replaces them. -/
theorem lookupEntry_overlayFields_strings {fields : List (String × Json)} (h : Ascending fields)
    (map : SortedMap String String) (name : String) :
    lookupEntry name (overlayFields (map.entries.map fun entry => (entry.1, string entry.2)) fields) =
      (lookupEntry name fields).or ((map.get? name).map string) := by
  rw [lookupEntry_overlayFields h, lookupEntry_map]
  cases lookupEntry name fields with
  | none => rfl
  | some value =>
      change (match (map.get? name).map string with
        | none => some value
        | some existing => some (existing.overlay value)) = some value
      cases map.get? name with
      | none => rfl
      | some text => exact congrArg some (overlay_of_not_object (by simp) value)

/-- Laying strings over a map of strings overwrites it name by name. -/
theorem map?_overlay_ofMap {map result : SortedMap String String} {patch : Json}
    (hpatch : ∀ fields, patch = object fields → Ascending fields) :
    ((ofMap string map).overlay patch).map? string? = some result ↔
      ∃ added, patch.map? string? = some added ∧
        ∀ name, result.get? name = (added.get? name).or (map.get? name) := by
  cases patch with
  | object fields =>
      have hfields := hpatch fields rfl
      have hbelow : Ascending (map.entries.map fun entry => (entry.1, string entry.2)) :=
        List.pairwise_map.2 map.ascending
      rw [ofMap, overlay, map?_string_eq_some (overlayFields_ascending hbelow fields)]
      simp only [lookupEntry_overlayFields_strings hfields, map?_string_eq_some hfields]
      constructor
      · intro h
        have hstrings : ∀ entry ∈ fields, ∃ text, entry.2 = string text := by
          intro entry hentry
          have hname := h entry.1
          rw [lookupEntry_of_mem hfields hentry, Option.some_or] at hname
          obtain ⟨text, _, htext⟩ := Option.map_eq_some_iff.1 hname.symm
          exact ⟨text, htext.symm⟩
        obtain ⟨added, hadded⟩ := exists_map?_string hstrings
        rw [map?_string_eq_some hfields] at hadded
        refine ⟨added, hadded, fun name => ?_⟩
        have hname := h name
        rw [hadded, ← Option.map_or] at hname
        exact Option.map_injective (fun _ _ => string.inj) hname.symm
      · intro h name
        obtain ⟨added, hadded, hresult⟩ := h
        rw [hadded, hresult, Option.map_or]
  | _ => simp [overlay, map?]

end BenchReport.Json

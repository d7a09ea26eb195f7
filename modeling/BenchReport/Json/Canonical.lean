import BenchReport.Json.Basic

/-!
# Canonical documents

The canonical form of a document has in every object each name once, with the value of its last field, and the names in increasing order. Fields that a later one replaces leave no trace in it, whatever their values. Looking up a name and bringing into canonical form can be done in either order.
-/

namespace BenchReport.Json

mutual

def canonical : Json → Json
  | null => null
  | bool value => bool value
  | number value => number value
  | string value => string value
  | array items => array (canonicalItems items)
  | object fields => object (SortedMap.ofList (canonicalFields fields)).entries

def canonicalItems : List Json → List Json
  | [] => []
  | item :: rest => canonical item :: canonicalItems rest

/-- The fields with canonical values, as many as before. -/
def canonicalFields : List (String × Json) → List (String × Json)
  | [] => []
  | (name, value) :: rest => (name, canonical value) :: canonicalFields rest

end

theorem canonicalFields_eq_map (fields : List (String × Json)) :
    canonicalFields fields = fields.map fun field => (field.1, canonical field.2) := by
  induction fields with
  | nil => simp [canonicalFields]
  | cons field rest ih => simp [canonicalFields, ih]

/-- A field of the canonical form is the canonical form of the field. -/
theorem field?_canonical (name : String) (document : Json) :
    document.canonical.field? name = (document.field? name).map canonical := by
  cases document with
  | object fields =>
      rw [canonical, field?, field?, canonicalFields_eq_map, SortedMap.lookupEntry_reverse_entries,
        SortedMap.get?_ofList, ← List.map_reverse, SortedMap.lookupEntry_map]
  | _ => simp [canonical, field?]

end BenchReport.Json

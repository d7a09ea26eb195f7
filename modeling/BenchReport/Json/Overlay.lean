import BenchReport.Json.Basic

/-!
# Overlays

Laying one document over another, both in canonical form. Objects merge name by name, at every depth; anything else replaces what was there.
-/

namespace BenchReport.Json

mutual

def overlay (target : Json) : Json → Json
  | object patch =>
    match target with
    | object fields => object (overlayFields fields patch)
    | _ => object patch
  | patch => patch

/-- Lays the fields of a patch over those of an object, one after the other. -/
def overlayFields (fields : List (String × Json)) : List (String × Json) → List (String × Json)
  | [] => fields
  | (name, value) :: rest =>
    let laid :=
      match SortedMap.lookupEntry name fields with
      | some existing => overlay existing value
      | none => value
    overlayFields (SortedMap.insertEntry name laid fields) rest

end

end BenchReport.Json

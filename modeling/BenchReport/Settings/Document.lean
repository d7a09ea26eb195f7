import BenchReport.FileTree.Document
import BenchReport.Json.Canonical
import BenchReport.Json.Overlay
import BenchReport.Settings.Preset

/-!
# Settings as documents

Settings are written as a document and read back. A file of overrides, in canonical form, is laid over the document of the settings that it changes, and the result is read field by field according to each field's type: fields that no settings have are ignored, and a value of the wrong type fails the whole file.
-/

namespace BenchReport

open Json

-- Powers are those of the core library, whatever is in scope; literal exponents need their type for it.
attribute [local instance (high)] instPowNat

/-! ### Writing -/

def encodeStrings (strings : List String) : Json := array (strings.map string)

def encodeSet : Option (SortedSet String) → Json
  | none => null
  | some set => encodeStrings set.keys

def TimeUnit.name : TimeUnit → String
  | nanoseconds => "nanoseconds"
  | seconds => "seconds"

def ValueProfile.toJson (profile : ValueProfile) : Json :=
  object [
    ("bmf_key", string profile.measureKey),
    ("dashboard_unit", string profile.feedUnit),
    ("precision", number (.integer profile.places.toNat)),
    ("unit", string profile.unit.name)]

def Settings.toJson (settings : Settings) : Json :=
  object [
    ("base_suffix", string settings.baseSuffix),
    ("chart_variants", encodeSet settings.chartVariants),
    ("charts_title", string settings.chartsTitle),
    ("colors", ofMap string settings.colors),
    ("display_order", encodeStrings settings.displayOrder),
    ("labels", ofMap string settings.labels),
    ("profile", settings.profile.toJson),
    ("report_title", string settings.reportTitle),
    ("threshold", ofFloat settings.threshold),
    ("tracked_heading", string settings.trackedHeading),
    ("tracked_variants", encodeSet settings.trackedVariants),
    ("x_axis_labels", ofMap string settings.axisCaptions)]

/-! ### Reading -/

/-- A field by its type, or a default where there is no such field. -/
def decodeField? {α : Type} (document : Json) (name : String) (decode : Json → Option α)
    (default : α) : Option α :=
  match document.field? name with
  | some value => decode value
  | none => some default

def decodeStrings? (value : Json) : Option (List String) := do
  (← value.array?).mapM Json.string?

def decodeSet? : Json → Option (Option (SortedSet String))
  | null => some none
  | value => (decodeStrings? value).map fun members => some (.ofList members)

def decodeMap? (value : Json) : Option (SortedMap String String) := value.map? Json.string?

/-- A natural number of thirty-two bits, which must be written as an integer. -/
def decodePlaces? : Json → Option UInt32
  | number (.integer value) =>
    if 0 ≤ value ∧ value < 2 ^ (32 : Nat) then some (UInt32.ofNat value.toNat) else none
  | _ => none

def TimeUnit.ofName? (name : String) : Option TimeUnit :=
  if name = "nanoseconds" then some .nanoseconds
  else if name = "seconds" then some .seconds
  else none

/-- A unit is its name, or an object with its name for the only key and null below it. -/
def decodeUnit? : Json → Option TimeUnit
  | string name => TimeUnit.ofName? name
  | object [(name, null)] => TimeUnit.ofName? name
  | _ => none

/-- The decoded item at a position, or a default past the end. -/
def decodeItem? {α : Type} (items : List Json) (index : Nat) (decode : Json → Option α)
    (default : α) : Option α :=
  match items[index]? with
  | some value => decode value
  | none => some default

/-- A profile is an object, or an array with the fields in their order; what is missing comes from the nanosecond profile. -/
def decodeProfile? : Json → Option ValueProfile
  | object fields => do
    let document := object fields
    let standard := ValueProfile.nanoseconds
    return {
      unit := ← decodeField? document "unit" decodeUnit? standard.unit
      feedUnit := ← decodeField? document "dashboard_unit" Json.string? standard.feedUnit
      measureKey := ← decodeField? document "bmf_key" Json.string? standard.measureKey
      places := ← decodeField? document "precision" decodePlaces? standard.places }
  | array items => do
    let standard := ValueProfile.nanoseconds
    if 4 < items.length then failure
    return {
      unit := ← decodeItem? items 0 decodeUnit? standard.unit
      feedUnit := ← decodeItem? items 1 Json.string? standard.feedUnit
      measureKey := ← decodeItem? items 2 Json.string? standard.measureKey
      places := ← decodeItem? items 3 decodePlaces? standard.places }
  | _ => none

def Settings.ofJson? (document : Json) : Option Settings := do
  let standard := Settings.standard
  return {
    threshold := ← decodeField? document "threshold" Json.float? standard.threshold
    trackedVariants := ← decodeField? document "tracked_variants" decodeSet? standard.trackedVariants
    chartVariants := ← decodeField? document "chart_variants" decodeSet? standard.chartVariants
    displayOrder := ← decodeField? document "display_order" decodeStrings? standard.displayOrder
    colors := ← decodeField? document "colors" decodeMap? standard.colors
    labels := ← decodeField? document "labels" decodeMap? standard.labels
    axisCaptions := ← decodeField? document "x_axis_labels" decodeMap? standard.axisCaptions
    profile := ← decodeField? document "profile" decodeProfile? standard.profile
    baseSuffix := ← decodeField? document "base_suffix" Json.string? standard.baseSuffix
    reportTitle := ← decodeField? document "report_title" Json.string? standard.reportTitle
    trackedHeading := ← decodeField? document "tracked_heading" Json.string? standard.trackedHeading
    chartsTitle := ← decodeField? document "charts_title" Json.string? standard.chartsTitle }

/-! ### Overrides -/

def Settings.patchedBy (settings : Settings) (tree : FileTree) (path : String) :
    Except ReportError Settings :=
  match tree.readFile path with
  | .error fault => .error (.settingsUnreadable path fault)
  | .ok content =>
    match content.document?.map Json.canonical with
    | none => .error (.settingsMalformed path)
    | some (object patch) =>
      match Settings.ofJson? (settings.toJson.overlay (object patch)) with
      | none => .error (.settingsMalformed path)
      | some patched => patched.checked
    | some _ => .error (.settingsNotObject path)

end BenchReport

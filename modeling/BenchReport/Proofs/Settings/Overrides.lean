import BenchReport.FileTree.Change
import BenchReport.Proofs.Json.Overlay
import BenchReport.Proofs.Results.Snapshot
import BenchReport.Settings.Document

/-!
# What a file of overrides changes

Settings are read from their own document with the file laid over it. Every field is written in a form that reads back, so a field that the file does not name keeps its value, and one that it names has the value of the file; only maps and the profile, whose documents are objects, keep the parts that the file leaves out. Nothing else of the file is looked at, and laying it over the result once more changes nothing.
-/

namespace BenchReport

open Json

/-! ### Values read back -/

theorem decodeStrings?_encodeStrings (strings : List String) :
    decodeStrings? (encodeStrings strings) = some strings := by
  change (strings.map string).mapM string? = some strings
  induction strings with
  | nil => rfl
  | cons text rest ih =>
      rw [List.map_cons, List.mapM_cons, ih]
      rfl

theorem decodeSet?_encodeSet (set : Option (SortedSet String)) :
    decodeSet? (encodeSet set) = some set := by
  cases set with
  | none => rfl
  | some members =>
      change (decodeStrings? (encodeStrings members.keys)).map _ = _
      rw [decodeStrings?_encodeStrings, Option.map_some, SortedSet.ofList_keys]

theorem decodeUnit?_name (unit : TimeUnit) : decodeUnit? (string unit.name) = some unit := by
  cases unit <;> decide

theorem decodePlaces?_toNat (places : UInt32) :
    decodePlaces? (number (.integer places.toNat)) = some places := by
  have hlt := places.toNat_lt
  rw [decodePlaces?, if_pos, Int.toNat_natCast, UInt32.ofNat_toNat]
  refine ⟨Int.natCast_nonneg _, ?_⟩
  omega

theorem decodeMap?_ofMap (map : SortedMap String String) :
    decodeMap? (ofMap string map) = some map := by
  have hascending : Ascending (map.entries.map fun entry => (entry.1, string entry.2)) :=
    List.pairwise_map.2 map.ascending
  rw [decodeMap?, ofMap, map?_string_eq_some hascending]
  intro name
  exact SortedMap.lookupEntry_map name string map.entries

/-! ### Single fields -/

section Field

variable {document patch : Json} (hdocument : document.IsOrderedObject)
  (hpatch : patch.IsOrderedObject) {name : String} {old : Json}
  (hthere : document.field? name = some old)

include hdocument hpatch hthere

/-- A field of an overlay whose old value is no object is that of the patch, or else the old one. -/
theorem decodeField?_overlay {α : Type} (decode : Json → Option α) {value : α}
    (hplain : ∀ fields, old ≠ object fields) (hold : decode old = some value) (default : α) :
    decodeField? (document.overlay patch) name decode default =
      decodeField? patch name decode value := by
  rw [decodeField?, decodeField?, field?_overlay hdocument hpatch, hthere]
  cases patch.field? name with
  | none => exact hold
  | some found => exact congrArg decode (overlay_of_not_object hplain found)

end Field

/-! ### Maps -/

/-- What a field of a document makes of a map: the map overwritten key by key. -/
def OverwritesMap (patch : Json) (name : String) (map result : SortedMap String String) : Prop :=
  ∃ added, decodeField? patch name decodeMap? .empty = some added ∧
    ∀ key, result.get? key = (added.get? key).or (map.get? key)

/-- The values of a document that are objects have their fields in order. -/
def HoldsOrdered (document : Json) : Prop :=
  ∀ name fields, document.field? name = some (object fields) → Ascending fields

theorem decodeField?_overlay_ofMap {document patch : Json} (hdocument : document.IsOrderedObject)
    (hpatch : patch.IsOrderedObject) (hholds : HoldsOrdered patch) {name : String}
    {map result : SortedMap String String}
    (hthere : document.field? name = some (ofMap string map)) (default : SortedMap String String) :
    decodeField? (document.overlay patch) name decodeMap? default = some result ↔
      OverwritesMap patch name map result := by
  rw [OverwritesMap, decodeField?, decodeField?, field?_overlay hdocument hpatch, hthere]
  cases hfound : patch.field? name with
  | none =>
      simp only [decodeMap?_ofMap, Option.some.injEq]
      constructor
      · intro h
        subst h
        exact ⟨_, rfl, fun key => rfl⟩
      · intro h
        obtain ⟨added, rfl, hresult⟩ := h
        exact SortedMap.ext_get? fun key => (hresult key).symm
  | some value =>
      refine map?_overlay_ofMap fun fields hfields => ?_
      rw [hfields] at hfound
      exact hholds name fields hfound

/-! ### Profiles -/

/-- What an object makes of a profile: the fields that it names are replaced. -/
structure PatchesProfile (profile : ValueProfile) (patch : Json) (result : ValueProfile) : Prop where
  unit : decodeField? patch "unit" decodeUnit? profile.unit = some result.unit
  feedUnit : decodeField? patch "dashboard_unit" Json.string? profile.feedUnit = some result.feedUnit
  measureKey : decodeField? patch "bmf_key" Json.string? profile.measureKey = some result.measureKey
  places : decodeField? patch "precision" decodePlaces? profile.places = some result.places

/-- What a field makes of a profile. Only an object leaves parts of it. -/
def OverridesProfile (profile : ValueProfile) (value : Option Json) (result : ValueProfile) : Prop :=
  match value with
  | none => result = profile
  | some (object fields) => PatchesProfile profile (object fields) result
  | some whole => decodeProfile? whole = some result

theorem decodeProfile?_object {document : Json} (hdocument : document.IsOrderedObject)
    {result : ValueProfile} :
    decodeProfile? document = some result ↔ PatchesProfile .nanoseconds document result := by
  obtain ⟨fields, rfl, _⟩ := hdocument
  simp only [decodeProfile?, Option.bind_eq_bind, Option.bind_eq_some_iff, Option.pure_def,
    Option.some.injEq]
  constructor
  · intro h
    obtain ⟨_, hunit, _, hfeed, _, hkey, _, hplaces, rfl⟩ := h
    exact ⟨hunit, hfeed, hkey, hplaces⟩
  · intro h
    exact ⟨_, h.unit, _, h.feedUnit, _, h.measureKey, _, h.places, rfl⟩

theorem isOrderedObject_profile (profile : ValueProfile) : profile.toJson.IsOrderedObject := by
  refine ⟨_, rfl, List.pairwise_map.1 ?_⟩
  change ["bmf_key", "dashboard_unit", "precision", "unit"].Pairwise (· < ·)
  decide

theorem field?_profile (profile : ValueProfile) :
    profile.toJson.field? "unit" = some (string profile.unit.name) ∧
      profile.toJson.field? "dashboard_unit" = some (string profile.feedUnit) ∧
      profile.toJson.field? "bmf_key" = some (string profile.measureKey) ∧
      profile.toJson.field? "precision" = some (number (.integer profile.places.toNat)) :=
  ⟨rfl, rfl, rfl, rfl⟩

theorem patchesProfile_overlay (profile : ValueProfile) {patch : Json}
    (hpatch : patch.IsOrderedObject) {result : ValueProfile} :
    PatchesProfile .nanoseconds (profile.toJson.overlay patch) result ↔
      PatchesProfile profile patch result := by
  have hdocument := isOrderedObject_profile profile
  obtain ⟨hunit, hfeed, hkey, hplaces⟩ := field?_profile profile
  have hunit := decodeField?_overlay hdocument hpatch hunit decodeUnit? (by simp)
    (decodeUnit?_name profile.unit) ValueProfile.nanoseconds.unit
  have hfeed := decodeField?_overlay hdocument hpatch hfeed Json.string? (by simp) rfl
    ValueProfile.nanoseconds.feedUnit
  have hkey := decodeField?_overlay hdocument hpatch hkey Json.string? (by simp) rfl
    ValueProfile.nanoseconds.measureKey
  have hplaces := decodeField?_overlay hdocument hpatch hplaces decodePlaces? (by simp)
    (decodePlaces?_toNat profile.places) ValueProfile.nanoseconds.places
  constructor
  · intro h
    exact ⟨hunit.symm.trans h.unit, hfeed.symm.trans h.feedUnit, hkey.symm.trans h.measureKey,
      hplaces.symm.trans h.places⟩
  · intro h
    exact ⟨hunit.trans h.unit, hfeed.trans h.feedUnit, hkey.trans h.measureKey,
      hplaces.trans h.places⟩

theorem decodeProfile?_toJson (profile : ValueProfile) :
    decodeProfile? profile.toJson = some profile := by
  rw [decodeProfile?_object (isOrderedObject_profile profile)]
  exact ⟨decodeUnit?_name profile.unit, rfl, rfl, decodePlaces?_toNat profile.places⟩

theorem decodeField?_overlay_profile {document patch : Json} (hdocument : document.IsOrderedObject)
    (hpatch : patch.IsOrderedObject) (hholds : HoldsOrdered patch) {name : String}
    {profile result : ValueProfile} (hthere : document.field? name = some profile.toJson)
    (default : ValueProfile) :
    decodeField? (document.overlay patch) name decodeProfile? default = some result ↔
      OverridesProfile profile (patch.field? name) result := by
  rw [decodeField?, field?_overlay hdocument hpatch, hthere]
  cases hfound : patch.field? name with
  | none =>
      change decodeProfile? profile.toJson = some result ↔ result = profile
      rw [decodeProfile?_toJson, Option.some.injEq]
      exact eq_comm
  | some value =>
      cases value with
      | object fields =>
          have hfields : (object fields).IsOrderedObject := ⟨fields, rfl, hholds name fields hfound⟩
          have hlaid : (profile.toJson.overlay (object fields)).IsOrderedObject := by
            obtain ⟨below, hbelow, hascending⟩ := isOrderedObject_profile profile
            rw [hbelow, overlay]
            exact ⟨_, rfl, overlayFields_ascending hascending fields⟩
          exact (decodeProfile?_object hlaid).trans (patchesProfile_overlay profile hfields)
      | _ => rfl

namespace Settings

/-! ### All fields -/

/-- What a document makes of settings: fields that it names are replaced, except that maps are overwritten key by key and the profile part by part. -/
structure Overrides (settings : Settings) (patch : Json) (result : Settings) : Prop where
  threshold : decodeField? patch "threshold" Json.float? settings.threshold = some result.threshold
  trackedVariants : decodeField? patch "tracked_variants" decodeSet? settings.trackedVariants =
    some result.trackedVariants
  chartVariants : decodeField? patch "chart_variants" decodeSet? settings.chartVariants =
    some result.chartVariants
  displayOrder : decodeField? patch "display_order" decodeStrings? settings.displayOrder =
    some result.displayOrder
  colors : OverwritesMap patch "colors" settings.colors result.colors
  labels : OverwritesMap patch "labels" settings.labels result.labels
  axisCaptions : OverwritesMap patch "x_axis_labels" settings.axisCaptions result.axisCaptions
  profile : OverridesProfile settings.profile (patch.field? "profile") result.profile
  baseSuffix : decodeField? patch "base_suffix" Json.string? settings.baseSuffix =
    some result.baseSuffix
  reportTitle : decodeField? patch "report_title" Json.string? settings.reportTitle =
    some result.reportTitle
  trackedHeading : decodeField? patch "tracked_heading" Json.string? settings.trackedHeading =
    some result.trackedHeading
  chartsTitle : decodeField? patch "charts_title" Json.string? settings.chartsTitle =
    some result.chartsTitle

theorem ofJson?_eq_some {document : Json} {result : Settings} :
    ofJson? document = some result ↔
      decodeField? document "threshold" Json.float? standard.threshold = some result.threshold ∧
      decodeField? document "tracked_variants" decodeSet? standard.trackedVariants =
        some result.trackedVariants ∧
      decodeField? document "chart_variants" decodeSet? standard.chartVariants =
        some result.chartVariants ∧
      decodeField? document "display_order" decodeStrings? standard.displayOrder =
        some result.displayOrder ∧
      decodeField? document "colors" decodeMap? standard.colors = some result.colors ∧
      decodeField? document "labels" decodeMap? standard.labels = some result.labels ∧
      decodeField? document "x_axis_labels" decodeMap? standard.axisCaptions =
        some result.axisCaptions ∧
      decodeField? document "profile" decodeProfile? standard.profile = some result.profile ∧
      decodeField? document "base_suffix" Json.string? standard.baseSuffix =
        some result.baseSuffix ∧
      decodeField? document "report_title" Json.string? standard.reportTitle =
        some result.reportTitle ∧
      decodeField? document "tracked_heading" Json.string? standard.trackedHeading =
        some result.trackedHeading ∧
      decodeField? document "charts_title" Json.string? standard.chartsTitle =
        some result.chartsTitle := by
  constructor
  · intro h
    obtain ⟨_, h1, h⟩ := Option.bind_eq_some_iff.1 h
    obtain ⟨_, h2, h⟩ := Option.bind_eq_some_iff.1 h
    obtain ⟨_, h3, h⟩ := Option.bind_eq_some_iff.1 h
    obtain ⟨_, h4, h⟩ := Option.bind_eq_some_iff.1 h
    obtain ⟨_, h5, h⟩ := Option.bind_eq_some_iff.1 h
    obtain ⟨_, h6, h⟩ := Option.bind_eq_some_iff.1 h
    obtain ⟨_, h7, h⟩ := Option.bind_eq_some_iff.1 h
    obtain ⟨_, h8, h⟩ := Option.bind_eq_some_iff.1 h
    obtain ⟨_, h9, h⟩ := Option.bind_eq_some_iff.1 h
    obtain ⟨_, h10, h⟩ := Option.bind_eq_some_iff.1 h
    obtain ⟨_, h11, h⟩ := Option.bind_eq_some_iff.1 h
    obtain ⟨_, h12, h⟩ := Option.bind_eq_some_iff.1 h
    cases h
    exact ⟨h1, h2, h3, h4, h5, h6, h7, h8, h9, h10, h11, h12⟩
  · intro h
    obtain ⟨h1, h2, h3, h4, h5, h6, h7, h8, h9, h10, h11, h12⟩ := h
    rw [ofJson?, h1, h2, h3, h4, h5, h6, h7, h8, h9, h10, h11, h12]
    rfl

theorem isOrderedObject_toJson (settings : Settings) : settings.toJson.IsOrderedObject := by
  refine ⟨_, rfl, List.pairwise_map.1 ?_⟩
  change ["base_suffix", "chart_variants", "charts_title", "colors", "display_order", "labels",
    "profile", "report_title", "threshold", "tracked_heading", "tracked_variants",
    "x_axis_labels"].Pairwise (· < ·)
  decide

theorem encodeSet_ne_object (set : Option (SortedSet String)) (fields : List (String × Json)) :
    encodeSet set ≠ object fields := by
  cases set <;> simp [encodeSet, encodeStrings]

theorem ofFloat_ne_object (x : Float) (fields : List (String × Json)) : ofFloat x ≠ object fields := by
  rw [ofFloat]
  split <;> simp

theorem field?_toJson (settings : Settings) :
    settings.toJson.field? "threshold" = some (ofFloat settings.threshold) ∧
      settings.toJson.field? "tracked_variants" = some (encodeSet settings.trackedVariants) ∧
      settings.toJson.field? "chart_variants" = some (encodeSet settings.chartVariants) ∧
      settings.toJson.field? "display_order" = some (encodeStrings settings.displayOrder) ∧
      settings.toJson.field? "colors" = some (ofMap string settings.colors) ∧
      settings.toJson.field? "labels" = some (ofMap string settings.labels) ∧
      settings.toJson.field? "x_axis_labels" = some (ofMap string settings.axisCaptions) ∧
      settings.toJson.field? "profile" = some settings.profile.toJson ∧
      settings.toJson.field? "base_suffix" = some (string settings.baseSuffix) ∧
      settings.toJson.field? "report_title" = some (string settings.reportTitle) ∧
      settings.toJson.field? "tracked_heading" = some (string settings.trackedHeading) ∧
      settings.toJson.field? "charts_title" = some (string settings.chartsTitle) :=
  ⟨rfl, rfl, rfl, rfl, rfl, rfl, rfl, rfl, rfl, rfl, rfl, rfl⟩

/-- Reading the document of valid settings with another one laid over it. -/
theorem ofJson?_overlay {settings : Settings} (hvalid : settings.isValid = true) {patch : Json}
    (hpatch : patch.IsOrderedObject) (hholds : HoldsOrdered patch) {result : Settings} :
    ofJson? (settings.toJson.overlay patch) = some result ↔ settings.Overrides patch result := by
  have hdocument := settings.isOrderedObject_toJson
  obtain ⟨hthreshold, htracked, hdrawn, horder, hcolors, hlabels, hcaptions, hprofile, hsuffix,
    htitle, hheading, hcharts⟩ := settings.field?_toJson
  have hfinite : (ofFloat settings.threshold).float? = some settings.threshold := by
    rw [Results.float?_ofFloat, if_pos (Bool.and_eq_true_iff.1 hvalid).1]
  -- Fields that are no objects are replaced; maps and the profile have lemmas of their own.
  have hset {name : String} {set : Option (SortedSet String)}
      (hthere : settings.toJson.field? name = some (encodeSet set)) :=
    decodeField?_overlay hdocument hpatch hthere decodeSet? (encodeSet_ne_object set)
      (decodeSet?_encodeSet set)
  have hmap {name : String} {map result : SortedMap String String}
      (hthere : settings.toJson.field? name = some (ofMap string map))
      (default : SortedMap String String) :
      decodeField? (settings.toJson.overlay patch) name decodeMap? default = some result ↔
        OverwritesMap patch name map result :=
    decodeField?_overlay_ofMap hdocument hpatch hholds hthere default
  have htext {name text : String} (hthere : settings.toJson.field? name = some (string text)) :=
    decodeField?_overlay hdocument hpatch hthere Json.string? (by simp) rfl
  rw [ofJson?_eq_some,
    decodeField?_overlay hdocument hpatch hthreshold Json.float? (ofFloat_ne_object _) hfinite,
    hset htracked, hset hdrawn,
    decodeField?_overlay hdocument hpatch horder decodeStrings? (by simp [encodeStrings])
      (decodeStrings?_encodeStrings _),
    hmap hcolors, hmap hlabels, hmap hcaptions,
    decodeField?_overlay_profile hdocument hpatch hholds hprofile,
    htext hsuffix, htext htitle, htext hheading, htext hcharts]
  constructor
  · intro h
    obtain ⟨h1, h2, h3, h4, h5, h6, h7, h8, h9, h10, h11, h12⟩ := h
    exact ⟨h1, h2, h3, h4, h5, h6, h7, h8, h9, h10, h11, h12⟩
  · intro h
    exact ⟨h.threshold, h.trackedVariants, h.chartVariants, h.displayOrder, h.colors, h.labels,
      h.axisCaptions, h.profile, h.baseSuffix, h.reportTitle, h.trackedHeading, h.chartsTitle⟩

/-! ### Twice the same, and other names -/

/-- The names that settings have, the profile apart. -/
def fieldNames : List String := ["threshold", "tracked_variants", "chart_variants", "display_order",
  "colors", "labels", "x_axis_labels", "base_suffix", "report_title", "tracked_heading", "charts_title"]

def profileNames : List String := ["unit", "dashboard_unit", "bmf_key", "precision"]

/-- Two values for a profile with the same parts. -/
def AgreesOnProfile (one other : Option Json) : Prop :=
  one = other ∨ ∃ fields others, one = some (object fields) ∧ other = some (object others) ∧
    ∀ name ∈ profileNames, (object fields).field? name = (object others).field? name

/-- Two documents that differ in names that settings do not have. -/
structure Agrees (one other : Json) : Prop where
  fields : ∀ name ∈ fieldNames, one.field? name = other.field? name
  profile : AgreesOnProfile (one.field? "profile") (other.field? "profile")

theorem decodeField?_again {α : Type} {document : Json} {name : String} {decode : Json → Option α}
    {default value : α} (h : decodeField? document name decode default = some value) :
    decodeField? document name decode value = some value := by
  rw [decodeField?] at h ⊢
  cases hfound : document.field? name with
  | none => rfl
  | some found =>
      rw [hfound] at h
      exact h

theorem decodeField?_congr {α : Type} {one other : Json} {name : String}
    (h : one.field? name = other.field? name) (decode : Json → Option α) (default : α) :
    decodeField? one name decode default = decodeField? other name decode default := by
  rw [decodeField?, decodeField?, h]

theorem overwritesMap_again {patch : Json} {name : String} {map result : SortedMap String String}
    (h : OverwritesMap patch name map result) : OverwritesMap patch name result result := by
  obtain ⟨added, hadded, hresult⟩ := h
  refine ⟨added, hadded, fun key => ?_⟩
  cases hkey : added.get? key with
  | none => rfl
  | some text =>
      rw [hresult, hkey]
      rfl

theorem overridesProfile_again {profile result : ValueProfile} {value : Option Json}
    (h : OverridesProfile profile value result) : OverridesProfile result value result := by
  cases value with
  | none => exact rfl
  | some found =>
      cases found with
      | object fields =>
          have h : PatchesProfile profile (object fields) result := h
          exact ⟨decodeField?_again h.unit, decodeField?_again h.feedUnit,
            decodeField?_again h.measureKey, decodeField?_again h.places⟩
      | _ => exact h

theorem overridesProfile_congr {profile result : ValueProfile} {one other : Option Json}
    (hagrees : AgreesOnProfile one other) (h : OverridesProfile profile one result) :
    OverridesProfile profile other result := by
  cases hagrees with
  | inl hsame => exact hsame ▸ h
  | inr hobjects =>
      obtain ⟨fields, others, rfl, rfl, hnames⟩ := hobjects
      have h : PatchesProfile profile (object fields) result := h
      refine ⟨?_, ?_, ?_, ?_⟩
      · rw [← decodeField?_congr (hnames _ (by decide))]
        exact h.unit
      · rw [← decodeField?_congr (hnames _ (by decide))]
        exact h.feedUnit
      · rw [← decodeField?_congr (hnames _ (by decide))]
        exact h.measureKey
      · rw [← decodeField?_congr (hnames _ (by decide))]
        exact h.places

theorem Overrides.again {settings result : Settings} {patch : Json}
    (h : settings.Overrides patch result) : result.Overrides patch result where
  threshold := decodeField?_again h.threshold
  trackedVariants := decodeField?_again h.trackedVariants
  chartVariants := decodeField?_again h.chartVariants
  displayOrder := decodeField?_again h.displayOrder
  colors := overwritesMap_again h.colors
  labels := overwritesMap_again h.labels
  axisCaptions := overwritesMap_again h.axisCaptions
  profile := overridesProfile_again h.profile
  baseSuffix := decodeField?_again h.baseSuffix
  reportTitle := decodeField?_again h.reportTitle
  trackedHeading := decodeField?_again h.trackedHeading
  chartsTitle := decodeField?_again h.chartsTitle

theorem Overrides.congr {settings result : Settings} {one other : Json} (hagrees : Agrees one other)
    (h : settings.Overrides one result) : settings.Overrides other result := by
  have hfield {α : Type} {name : String} {decode : Json → Option α} {default value : α}
      (h : decodeField? one name decode default = some value) (hname : name ∈ fieldNames) :
      decodeField? other name decode default = some value := by
    rw [← decodeField?_congr (hagrees.fields name hname)]
    exact h
  have hmap {name : String} {map result : SortedMap String String}
      (h : OverwritesMap one name map result) (hname : name ∈ fieldNames) :
      OverwritesMap other name map result := by
    obtain ⟨added, hadded, hresult⟩ := h
    exact ⟨added, hfield hadded hname, hresult⟩
  exact {
    threshold := hfield h.threshold (by decide)
    trackedVariants := hfield h.trackedVariants (by decide)
    chartVariants := hfield h.chartVariants (by decide)
    displayOrder := hfield h.displayOrder (by decide)
    colors := hmap h.colors (by decide)
    labels := hmap h.labels (by decide)
    axisCaptions := hmap h.axisCaptions (by decide)
    profile := overridesProfile_congr hagrees.profile h.profile
    baseSuffix := hfield h.baseSuffix (by decide)
    reportTitle := hfield h.reportTitle (by decide)
    trackedHeading := hfield h.trackedHeading (by decide)
    chartsTitle := hfield h.chartsTitle (by decide) }

/-- An empty object changes nothing. -/
theorem overrides_empty (settings : Settings) : settings.Overrides (object []) settings where
  threshold := rfl
  trackedVariants := rfl
  chartVariants := rfl
  displayOrder := rfl
  colors := ⟨_, rfl, fun _ => rfl⟩
  labels := ⟨_, rfl, fun _ => rfl⟩
  axisCaptions := ⟨_, rfl, fun _ => rfl⟩
  profile := rfl
  baseSuffix := rfl
  reportTitle := rfl
  trackedHeading := rfl
  chartsTitle := rfl

/-! ### Files -/

/-- A file that holds an object, told by the fields of its canonical form. -/
def HoldsObject (tree : FileTree) (path : String) (fields : List (String × Json)) : Prop :=
  ∃ content source, tree.readFile path = .ok content ∧ content.document? = some source ∧
    source.canonical = object fields

theorem patchedBy_of_holdsObject {settings : Settings} {tree : FileTree} {path : String}
    {fields : List (String × Json)} (hholds : HoldsObject tree path fields)
    (hvalid : settings.isValid = true) {result : Settings} :
    settings.patchedBy tree path = .ok result ↔
      settings.Overrides (object fields) result ∧ result.isValid = true := by
  obtain ⟨content, source, hread, hdocument, hcanonical⟩ := hholds
  have hobject := isCanonicalObject_of_canonical hcanonical
  have hordered : HoldsOrdered (object fields) := by
    intro name inner hinner
    obtain ⟨below, hbelow⟩ := hobject.inner name (object inner) hinner
    exact (isCanonicalObject_of_canonical hbelow).ascending
  rw [patchedBy, hread, ← ofJson?_overlay hvalid ⟨fields, rfl, hobject.ascending⟩ hordered]
  simp only [hdocument, Option.map_some, hcanonical]
  cases hjson : ofJson? (settings.toJson.overlay (object fields)) with
  | none => simp
  | some patched =>
      simp only [checked, Option.some.injEq]
      cases hpatched : patched.isValid with
      | true =>
          simp only [if_true, Except.ok.injEq]
          constructor
          · intro h
            exact ⟨h, h ▸ hpatched⟩
          · exact fun h => h.1
      | false =>
          simp only [Bool.false_eq_true, if_false, reduceCtorEq, false_iff, not_and]
          intro h
          rw [← h, hpatched]
          exact Bool.false_ne_true

theorem holdsObject_of_patchedBy {settings result : Settings} {tree : FileTree} {path : String}
    (h : settings.patchedBy tree path = .ok result) : ∃ fields, HoldsObject tree path fields := by
  rw [patchedBy] at h
  cases hread : tree.readFile path with
  | error fault =>
      rw [hread] at h
      cases h
  | ok content =>
      rw [hread] at h
      simp only at h
      cases hdocument : content.document? with
      | none =>
          rw [hdocument] at h
          cases h
      | some source =>
          rw [hdocument, Option.map_some] at h
          cases hcanonical : source.canonical with
          | object fields => exact ⟨fields, content, source, hread, hdocument, hcanonical⟩
          | _ =>
              rw [hcanonical] at h
              cases h

/-- What a file makes of valid settings. -/
structure Patches (settings : Settings) (tree : FileTree) (path : String)
    (fields : List (String × Json)) (result : Settings) : Prop where
  holds : HoldsObject tree path fields
  overrides : settings.Overrides (object fields) result
  valid : result.isValid = true
  again : result.patchedBy tree path = .ok result
  /-- A file that differs in other names only makes the same of them. -/
  others : ∀ (other : FileTree) (place : String) (others : List (String × Json)),
    HoldsObject other place others → Agrees (object fields) (object others) →
      settings.patchedBy other place = .ok result

/-- An empty object leaves valid settings as they are, and whatever file changes them changes the fields that it names. -/
theorem patchedBy_patches {settings : Settings} (hvalid : settings.isValid = true) :
    (∀ (tree : FileTree) (path : String), HoldsObject tree path [] →
      settings.patchedBy tree path = .ok settings) ∧
    ∀ (tree : FileTree) (path : String) (result : Settings),
      settings.patchedBy tree path = .ok result →
        ∃ fields, settings.Patches tree path fields result := by
  constructor
  · intro tree path hholds
    exact (patchedBy_of_holdsObject hholds hvalid).2 ⟨settings.overrides_empty, hvalid⟩
  · intro tree path result hpatched
    obtain ⟨fields, hholds⟩ := holdsObject_of_patchedBy hpatched
    obtain ⟨hoverrides, hresult⟩ := (patchedBy_of_holdsObject hholds hvalid).1 hpatched
    refine ⟨fields, hholds, hoverrides, hresult, ?_, fun other place others hother hagrees => ?_⟩
    · exact (patchedBy_of_holdsObject hholds hresult).2 ⟨hoverrides.again, hresult⟩
    · exact (patchedBy_of_holdsObject hother hvalid).2 ⟨hoverrides.congr hagrees, hresult⟩

/-! #### A file that changes some of a preset -/

def overridesTree : FileTree :=
  FileTree.empty.withFile "report.json" (.text "\x7b\"colors\":\x7b\"system\":\"red\"\x7d,\"profile\":\x7b\"precision\":3,\"digits\":9\x7d,\"author\":[1]\x7d")

/-- The preset with what the file names. -/
def overriddenPreset : Settings :=
  { mimallocBench with
    colors := mimallocBench.colors.insert "system" "red"
    profile := { mimallocBench.profile with places := 3 } }

theorem patchedBy_patches_preset :
    (mimallocBench.isValid = true ∧
      mimallocBench.patchedBy overridesTree "report.json" = .ok overriddenPreset) ∧
    ∃ fields, mimallocBench.Patches overridesTree "report.json" fields overriddenPreset := by
  have hvalid : mimallocBench.isValid = true := by decide +kernel
  have hpatched : mimallocBench.patchedBy overridesTree "report.json" = .ok overriddenPreset := by
    decide +kernel
  exact ⟨⟨hvalid, hpatched⟩, (patchedBy_patches hvalid).2 _ _ _ hpatched⟩

end Settings

end BenchReport

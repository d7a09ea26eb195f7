import BenchReport.Chart.Basic
import BenchReport.Proofs.Number.Extremum
import BenchReport.Proofs.Panel
import BenchReport.Settings.Preset

/-!
# Charts show what panels hold

There is one chart for each group of some kept name. Its categories are the parameters of the group in axis order, every series has a value for each of them, and the value at a place is the one that the panels hold there; a group without parameters has a bar for each variant, and since every variant of such a group has its value at the only place there is, no bar is made up. The unit of a chart is that of all values of its group: a chart of bars looks at the positive values only, but the others reach no unit.
-/

namespace BenchReport

open SortedMap

/-! ### One panel -/

namespace Panel

theorem mem_variants {panel : Panel} {variant : String} :
    variant ∈ panel.variants.keys ↔
      ∃ key cluster, panel.get? key = some cluster ∧ (cluster.get? variant).isSome := by
  rw [variants, SortedSet.mem_keys_ofList, List.mem_flatMap]
  simp only [mem_values, mem_keys]
  constructor
  · rintro ⟨cluster, ⟨key, hkey⟩, hvariant⟩
    exact ⟨key, cluster, hkey, hvariant⟩
  · rintro ⟨key, cluster, hkey, hvariant⟩
    exact ⟨cluster, ⟨key, hkey⟩, hvariant⟩

theorem mem_allValues {panel : Panel} {value : Float} :
    value ∈ panel.allValues ↔
      ∃ key cluster variant, panel.get? key = some cluster ∧ cluster.get? variant = some value := by
  rw [allValues, List.mem_flatMap]
  simp only [mem_values]
  constructor
  · rintro ⟨cluster, ⟨key, hkey⟩, variant, hvariant⟩
    exact ⟨key, cluster, variant, hkey, hvariant⟩
  · rintro ⟨key, cluster, variant, hkey, hvariant⟩
    exact ⟨cluster, ⟨key, hkey⟩, variant, hvariant⟩

theorem hasParameters_iff {panel : Panel} :
    panel.hasParameters = true ↔ ∃ key ∈ panel.keys, key ≠ .absent := by
  rw [hasParameters, List.any_eq_true]
  simp only [bne_iff_ne]

/-- A panel without parameters has one cluster, at the place for values without one. -/
theorem entries_of_not_hasParameters {panel : Panel} (h : panel.hasParameters = false)
    (hkeys : panel.keys ≠ []) : ∃ cluster, panel.entries = [(.absent, cluster)] := by
  have habsent : ∀ entry ∈ panel.entries, entry.1 = .absent := by
    intro entry hentry
    by_contra hne
    have hparameters := hasParameters_iff.2 ⟨entry.1, List.mem_map_of_mem hentry, hne⟩
    rw [h] at hparameters
    cases hparameters
  have hascending := panel.ascending
  rw [keys, ne_eq, List.map_eq_nil_iff] at hkeys
  cases hentries : panel.entries with
  | nil => exact absurd hentries hkeys
  | cons first rest =>
      rw [hentries] at habsent hascending
      cases rest with
      | nil => exact ⟨first.2, by rw [← habsent first List.mem_cons_self]⟩
      | cons second later =>
          have hlt := (List.pairwise_cons.1 hascending).1 second List.mem_cons_self
          rw [habsent first List.mem_cons_self,
            habsent second (List.mem_cons_of_mem _ List.mem_cons_self)] at hlt
          exact absurd hlt Std.lt_irrefl

end Panel

namespace Panels

/-- The values of a group. -/
def valuesOf (panels : Panels) (group : String) : List Float :=
  ((panels.get? group).getD .empty).allValues

section Group

variable {panels : Panels} {group : String} {panel : Panel} (h : panels.get? group = some panel)

include h

theorem keysOf_eq : panels.keysOf group = panel.keys := by
  rw [keysOf, h, Option.getD_some]

theorem valuesOf_eq : panels.valuesOf group = panel.allValues := by
  rw [valuesOf, h, Option.getD_some]

theorem value?_of_mem_entries {key : AxisKey} {cluster : Cluster}
    (hentry : (key, cluster) ∈ panel.entries) (variant : String) :
    panels.value? group key variant = cluster.get? variant := by
  rw [Panels.value?_eq, h, Option.getD_some, mem_entries.1 hentry, Option.getD_some]

theorem value?_eq_some {key : AxisKey} {variant : String} {value : Float} :
    panels.value? group key variant = some value ↔
      ∃ cluster, panel.get? key = some cluster ∧ cluster.get? variant = some value := by
  rw [value?, h]
  change ((panel.get? key).bind fun cluster => cluster.get? variant) = some value ↔ _
  exact Option.bind_eq_some_iff

theorem mem_valuesOf {value : Float} :
    value ∈ panels.valuesOf group ↔
      ∃ key variant, panels.value? group key variant = some value := by
  simp only [valuesOf_eq h, Panel.mem_allValues, value?_eq_some h]
  constructor
  · rintro ⟨key, cluster, variant, hkey, hvalue⟩
    exact ⟨key, variant, cluster, hkey, hvalue⟩
  · rintro ⟨key, variant, cluster, hkey, hvalue⟩
    exact ⟨key, cluster, variant, hkey, hvalue⟩

theorem mem_variants {variant : String} :
    variant ∈ panel.variants.keys ↔ ∃ key, (panels.value? group key variant).isSome := by
  simp only [Panel.mem_variants, Option.isSome_iff_exists, value?_eq_some h]
  constructor
  · rintro ⟨key, cluster, hkey, value, hvalue⟩
    exact ⟨key, value, cluster, hkey, hvalue⟩
  · rintro ⟨key, value, cluster, hkey, hvalue⟩
    exact ⟨key, cluster, hkey, value, hvalue⟩

end Group

end Panels

namespace Chart

/-! ### A chart of bars -/

section Bars

variable {settings : Settings} {group : String} {panel : Panel} {cluster : Cluster}
  (hentries : panel.entries = [(.absent, cluster)])

include hentries

theorem barValues_eq (variants : List String) :
    barValues panel variants = variants.map fun variant => (cluster.get? variant).getD 0 := by
  rw [barValues, values, hentries]
  rfl

theorem mem_drawingOrder_of_single {preference : List String} {variant : String} :
    variant ∈ drawingOrder panel.variants preference ↔ (cluster.get? variant).isSome := by
  have hvalues : panel.values = [cluster] := by rw [values, hentries]; rfl
  rw [mem_drawingOrder, Panel.variants, SortedSet.mem_keys_ofList, hvalues, List.flatMap_singleton,
    mem_keys]

/-- The bars are as high as the values of the cluster. -/
theorem mem_barValues_iff {preference : List String} {value : Float} :
    value ∈ barValues panel (drawingOrder panel.variants preference) ↔ value ∈ panel.allValues := by
  have hvalues : panel.allValues = cluster.values := by
    rw [Panel.allValues, values, hentries]
    exact List.flatMap_singleton ..
  rw [barValues_eq hentries, List.mem_map, hvalues, mem_values]
  simp only [mem_drawingOrder_of_single hentries]
  constructor
  · rintro ⟨variant, hsome, rfl⟩
    obtain ⟨value, hvalue⟩ := Option.isSome_iff_exists.1 hsome
    exact ⟨variant, by rw [hvalue, Option.getD_some]⟩
  · rintro ⟨variant, hvalue⟩
    exact ⟨variant, Option.isSome_iff_exists.2 ⟨value, hvalue⟩, by rw [hvalue, Option.getD_some]⟩

theorem unit_ofSingle :
    (ofSingle settings group panel (drawingOrder panel.variants settings.displayOrder)).unit =
      .ofValues settings.profile.unit panel.allValues := by
  refine (DisplayUnit.ofValues_positive _ _).trans (DisplayUnit.ofValues_congr _ fun bound _ => ?_)
  simp only [mem_barValues_iff hentries]

theorem plot_ofSingle (variants : List String) :
    (ofSingle settings group panel variants).plot = .bars (variants.map fun variant =>
      plotBar settings (ofSingle settings group panel variants).unit variant
        ((cluster.get? variant).getD 0)) := by
  change Plot.bars (List.zipWith (plotBar settings (ofSingle settings group panel variants).unit)
    variants (barValues panel variants)) = _
  rw [barValues_eq hentries, List.zipWith_map_right, List.zipWith_self]

end Bars

/-! ### Any chart -/

/-- The variants that a plot draws. -/
def variantsOf : Plot → List String
  | .bars bars => bars.map PlotBar.variant
  | .clusters _ _ series _ => series.map PlotSeries.variant

def isBars : Plot → Bool
  | .bars _ => true
  | .clusters .. => false

/-- What a chart owes the results of a group. -/
structure Shows (settings : Settings) (results : Results) (restriction : Option (SortedSet String))
    (panels : Panels) (group : String) (chart : Chart) : Prop where
  layout : isBars chart.plot = true ↔ ∀ name ∈ Panels.keptNames results restriction,
    (NameParts.ofName name).group = group → (NameParts.ofName name).parameter = none
  variants : ∀ variant, variant ∈ variantsOf chart.plot ↔
    ∃ name ∈ Panels.keptNames results restriction,
      (NameParts.ofName name).group = group ∧ (NameParts.ofName name).variant = variant
  axis : (panels.keysOf group).Pairwise (· < ·) ∧ ∀ key, key ∈ panels.keysOf group ↔
    ∃ name ∈ Panels.keptNames results restriction,
      (NameParts.ofName name).group = group ∧ .ofSegment (NameParts.ofName name).parameter = key
  bars : ∀ bars, chart.plot = .bars bars → ∀ bar ∈ bars, ∃ value,
    panels.value? group .absent bar.variant = some value ∧ bar.value = value / chart.unit.divisor
  clusters : ∀ categories caption series logarithmic,
    chart.plot = .clusters categories caption series logarithmic →
    categories = (panels.keysOf group).map (fun key => key.text?.getD group) ∧
      ∀ one ∈ series, one.values.length = categories.length ∧
        one.values = (panels.keysOf group).map fun key =>
          (panels.value? group key one.variant).map fun value => value / chart.unit.divisor
  held : ∀ value, value ∈ panels.valuesOf group ↔
    ∃ key variant, panels.value? group key variant = some value
  unit : chart.unit = .ofValues settings.profile.unit (panels.valuesOf group)

/-- A chart of clusters has a category for each key of its panel, and its series have the values of the panel there. -/
theorem clusters_ofClusters {panels : Panels} {group : String} {panel : Panel}
    (h : panels.get? group = some panel) (settings : Settings) (drawn : List String)
    {categories : List String} {caption : String} {series : List PlotSeries} {logarithmic : Bool}
    (hplot : (ofClusters settings group panel drawn).plot =
      .clusters categories caption series logarithmic) :
    categories = (panels.keysOf group).map (fun key => key.text?.getD group) ∧
      ∀ one ∈ series, one.values = (panels.keysOf group).map fun key =>
        (panels.value? group key one.variant).map (ofClusters settings group panel drawn).unit.convert := by
  cases hplot
  rw [Panels.keysOf_eq h]
  refine ⟨rfl, fun one hone => ?_⟩
  obtain ⟨variant, _, rfl⟩ := List.mem_map.1 hone
  rw [plotSeries, keys, values, List.map_map, List.map_map]
  refine List.map_congr_left fun entry hentry => ?_
  exact congrArg _ (Panels.value?_of_mem_entries h hentry variant).symm

theorem variantsOf_ofClusters (settings : Settings) (group : String) (panel : Panel)
    (variants : List String) :
    variantsOf (ofClusters settings group panel variants).plot = variants := by
  change (variants.map (plotSeries settings _ panel)).map PlotSeries.variant = variants
  rw [List.map_map]
  exact List.map_id _

theorem variantsOf_ofSingle (settings : Settings) (group : String) (panel : Panel)
    (variants : List String) :
    variantsOf (ofSingle settings group panel variants).plot = variants := by
  change (List.zipWith (plotBar settings _) variants (barValues panel variants)).map
    PlotBar.variant = variants
  rw [barValues, List.zipWith_map_right, List.zipWith_self, List.map_map]
  exact List.map_id _

section Results

variable {settings : Settings} {results : Results} {restriction : Option (SortedSet String)}
  {group : String} {panel : Panel}
  (hget : (Panels.ofResults results restriction).get? group = some panel)

include hget

theorem mem_drawingOrder_iff_kept {preference : List String} {variant : String} :
    variant ∈ drawingOrder panel.variants preference ↔
      ∃ name ∈ Panels.keptNames results restriction,
        (NameParts.ofName name).group = group ∧ (NameParts.ofName name).variant = variant := by
  rw [mem_drawingOrder, Panels.mem_variants hget]
  simp only [Panels.isSome_value?_ofResults, Panels.placeOf, Prod.mk.injEq]
  constructor
  · rintro ⟨_, name, hname, hgroup, _, hvariant⟩
    exact ⟨name, hname, hgroup, hvariant⟩
  · rintro ⟨name, hname, hgroup, hvariant⟩
    exact ⟨_, name, hname, hgroup, rfl, hvariant⟩

theorem axis_of_get? :
    ((Panels.ofResults results restriction).keysOf group).Pairwise (· < ·) ∧
      ∀ key, key ∈ (Panels.ofResults results restriction).keysOf group ↔
        ∃ name ∈ Panels.keptNames results restriction, (NameParts.ofName name).group = group ∧
          .ofSegment (NameParts.ofName name).parameter = key := by
  refine ⟨?_, fun key => Panels.mem_keysOf_ofResults results restriction⟩
  rw [Panels.keysOf_eq hget]
  exact keys_ascending panel

theorem hasParameters_eq_false_iff :
    panel.hasParameters = false ↔ ∀ name ∈ Panels.keptNames results restriction,
      (NameParts.ofName name).group = group → (NameParts.ofName name).parameter = none := by
  rw [← Bool.not_eq_true, Panel.hasParameters_iff, ← Panels.keysOf_eq hget]
  simp only [(axis_of_get? hget).2]
  constructor
  · intro hnone name hname hgroup
    by_contra hparameter
    exact hnone ⟨_, ⟨name, hname, hgroup, rfl⟩, fun h => hparameter (AxisKey.ofSegment_eq_absent.1 h)⟩
  · rintro hnone ⟨key, ⟨name, hname, hgroup, rfl⟩, hkey⟩
    exact hkey (AxisKey.ofSegment_eq_absent.2 (hnone name hname hgroup))

theorem shows_ofClusters (hparameters : panel.hasParameters = true) :
    Shows settings results restriction (.ofResults results restriction) group
      (ofClusters settings group panel (drawingOrder panel.variants settings.displayOrder)) where
  layout := by
    rw [← hasParameters_eq_false_iff hget, hparameters]
    exact ⟨fun h => (by cases h), fun h => (by cases h)⟩
  variants variant := by
    rw [← mem_drawingOrder_iff_kept hget, variantsOf_ofClusters]
  axis := axis_of_get? hget
  bars := nofun
  clusters := by
    intro categories caption series logarithmic hplot
    obtain ⟨hcategories, hseries⟩ := clusters_ofClusters hget settings _ hplot
    refine ⟨hcategories, fun one hone => ⟨?_, hseries one hone⟩⟩
    rw [hseries one hone, hcategories, List.length_map, List.length_map]
  held _ := Panels.mem_valuesOf hget
  unit := by
    rw [Panels.valuesOf_eq hget]
    rfl

theorem shows_ofSingle (hparameters : panel.hasParameters = false) (hkeys : panel.keys ≠ []) :
    Shows settings results restriction (.ofResults results restriction) group
      (ofSingle settings group panel (drawingOrder panel.variants settings.displayOrder)) where
  layout := by
    rw [← hasParameters_eq_false_iff hget, hparameters]
    exact ⟨fun _ => rfl, fun _ => rfl⟩
  variants variant := by
    rw [← mem_drawingOrder_iff_kept hget, variantsOf_ofSingle]
  axis := axis_of_get? hget
  bars := by
    obtain ⟨cluster, hentries⟩ := Panel.entries_of_not_hasParameters hparameters hkeys
    intro bars hplot bar hbar
    rw [plot_ofSingle hentries] at hplot
    cases hplot
    obtain ⟨variant, hvariant, rfl⟩ := List.mem_map.1 hbar
    obtain ⟨value, hvalue⟩ :=
      Option.isSome_iff_exists.1 ((mem_drawingOrder_of_single hentries).1 hvariant)
    refine ⟨value, ?_, ?_⟩
    · have hentry : (.absent, cluster) ∈ panel.entries := by
        rw [hentries]
        exact List.mem_cons_self
      rw [← hvalue]
      exact Panels.value?_of_mem_entries hget hentry variant
    · rw [hvalue]
      rfl
  clusters := nofun
  held _ := Panels.mem_valuesOf hget
  unit := by
    obtain ⟨cluster, hentries⟩ := Panel.entries_of_not_hasParameters hparameters hkeys
    rw [Panels.valuesOf_eq hget, unit_ofSingle hentries]

end Results

/-! ### All charts -/

theorem group_ofPanel? {settings : Settings} {group : String} {panel : Panel} {chart : Chart}
    (h : ofPanel? settings group panel = some chart) : chart.group = group := by
  rw [ofPanel?] at h
  split at h
  · cases h
  · split at h
    · cases h
      rfl
    · cases h
      rfl

/-- The panel of a group has a chart, which shows the results of the group. -/
theorem ofPanel?_shows (settings : Settings) {results : Results}
    {restriction : Option (SortedSet String)} {group : String} {panel : Panel}
    (hget : (Panels.ofResults results restriction).get? group = some panel) :
    ∃ chart, ofPanel? settings group panel = some chart ∧
      chart.Shows settings results restriction (.ofResults results restriction) group := by
  have hgroup : group ∈ (Panels.ofResults results restriction).keys := mem_keys_of_get? hget
  obtain ⟨name, hname, hof⟩ := (Panels.mem_keys_ofResults results restriction).1 hgroup
  have hdrawn : (drawingOrder panel.variants settings.displayOrder).isEmpty = false := by
    rw [List.isEmpty_eq_false_iff]
    exact List.ne_nil_of_mem ((mem_drawingOrder_iff_kept hget).2 ⟨name, hname, hof, rfl⟩)
  have hkeys : panel.keys ≠ [] := by
    rw [← Panels.keysOf_eq hget]
    exact List.ne_nil_of_mem ((axis_of_get? hget).2 _ |>.2 ⟨name, hname, hof, rfl⟩)
  simp only [ofPanel?, hdrawn, Bool.false_eq_true, if_false]
  cases hparameters : panel.hasParameters with
  | true => exact ⟨_, rfl, shows_ofClusters hget hparameters⟩
  | false => exact ⟨_, rfl, shows_ofSingle hget hparameters hkeys⟩

/-- There is one chart for each group of a kept name, in name order, and each shows what the panels hold for its group. -/
theorem ofPanels_shows (settings : Settings) (results : Results)
    (restriction : Option (SortedSet String)) :
    (ofPanels settings (.ofResults results restriction)).map Chart.group =
        (Panels.ofResults results restriction).keys ∧
      ((ofPanels settings (.ofResults results restriction)).map Chart.group).Pairwise (· < ·) ∧
      (∀ group, group ∈ (ofPanels settings (.ofResults results restriction)).map Chart.group ↔
        ∃ name ∈ Panels.keptNames results restriction, (NameParts.ofName name).group = group) ∧
      ∀ chart ∈ ofPanels settings (.ofResults results restriction),
        chart.Shows settings results restriction (.ofResults results restriction) chart.group := by
  have hgroups : (ofPanels settings (.ofResults results restriction)).map Chart.group =
      (Panels.ofResults results restriction).keys := by
    have hall : ∀ entry ∈ (Panels.ofResults results restriction).entries,
        (ofPanel? settings entry.1 entry.2).map Chart.group = some entry.1 := by
      intro entry hentry
      obtain ⟨chart, hchart, _⟩ := ofPanel?_shows settings (mem_entries.1 hentry)
      rw [hchart, Option.map_some, group_ofPanel? hchart]
    rw [ofPanels, List.map_filterMap, List.filterMap_congr hall, keys, ← List.filterMap_eq_map]
    rfl
  refine ⟨hgroups, ?_, fun group => ?_, fun chart hchart => ?_⟩
  · rw [hgroups]
    exact keys_ascending _
  · rw [hgroups]
    exact Panels.mem_keys_ofResults results restriction
  · obtain ⟨entry, hentry, hof⟩ := List.mem_filterMap.1 hchart
    obtain ⟨found, hfound, hshows⟩ := ofPanel?_shows settings (mem_entries.1 hentry)
    cases hof.symm.trans hfound
    rw [group_ofPanel? hof]
    exact hshows

/-! #### Two layouts in two units -/

/-- A group of microseconds without parameters, and one of seconds in which a variant has no result for one of the parameters. -/
def scaledResults : Results :=
  .ofList [("g/a", 1500), ("g/b", 500), ("h/a/2", 500000000), ("h/a/10", 2500000000),
    ("h/b/10", 3000000000)]

theorem ofPanels_shows_scaled :
    (∀ chart ∈ ofPanels .standard (.ofResults scaledResults none),
      chart.Shows .standard scaledResults none (.ofResults scaledResults none) chart.group) ∧
    (ofPanels .standard (.ofResults scaledResults none)).map
        (fun chart => (chart.group, chart.unit.divisor, chart.plot)) =
      [("g", 1000, .bars [⟨"a", "a", "#999999", 1.5⟩, ⟨"b", "b", "#999999", 0.5⟩]),
        ("h", 1000000000, .clusters ["2", "10"] "Parameter"
          [⟨"a", "a", "#999999", [some 0.5, some 2.5]⟩, ⟨"b", "b", "#999999", [none, some 3]⟩]
          false)] := by
  refine ⟨(ofPanels_shows .standard scaledResults none).2.2.2, ?_⟩
  decide +kernel

end Chart

end BenchReport

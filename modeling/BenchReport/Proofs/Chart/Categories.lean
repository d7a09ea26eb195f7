import BenchReport.Proofs.Chart.Faithful
import BenchReport.Proofs.Number.Integer
import BenchReport.Settings.Preset

/-!
# The categories of a chart

A parameter's key keeps the parameter's text, so parameters in different writings have different keys, also if they are one integer. Keys are compared first by their kind, which gives an order in which no two keys are level. The clusters of a chart are a map from these keys; its categories are therefore the parameters of the group in this order, each once, whatever the order in which names come and results are filed.
-/

namespace BenchReport

open SortedMap NumberText

namespace AxisKey

/-! ### Comparing keys -/

section Order

variable {left right : String} {m n : Int} {key : AxisKey}

theorem absent_lt_iff : absent < key ↔ key ≠ absent := by
  cases key with
  | absent => exact iff_of_false (fun h => h trivial) (fun h => h rfl)
  | numeric => exact iff_of_true id nofun
  | textual => exact iff_of_true id nofun

theorem not_lt_absent : ¬key < absent := fun h => h trivial

theorem numeric_lt_numeric : numeric m left < numeric n right ↔ m < n ∨ m = n ∧ left < right := by
  change ¬(n < m ∨ n = m ∧ right ≤ left) ↔ _
  rw [not_or, not_and, String.not_le]
  constructor
  · rintro ⟨hle, hlt⟩
    obtain h | h := Int.lt_or_eq_of_le (Int.not_lt.1 hle)
    · exact .inl h
    · exact .inr ⟨h, hlt h.symm⟩
  · rintro (h | ⟨rfl, h⟩)
    · exact ⟨Int.not_lt.2 (Int.le_of_lt h), fun he => absurd he (Int.ne_of_gt h)⟩
    · exact ⟨Int.lt_irrefl _, fun _ => h⟩

theorem numeric_lt_textual : numeric m left < textual right := id

theorem not_textual_lt_numeric : ¬textual left < numeric n right := fun h => h trivial

theorem textual_lt_textual : textual left < textual right ↔ left < right := String.not_le

end Order

/-- No two keys are level, and keys compare as their places on one line. -/
theorem isStrictTotalOrder : IsStrictTotalOrder AxisKey (· < ·) where
  trichotomous _ _ hab hba := eq_of_not_lt hab hba
  irrefl _ := Std.lt_irrefl
  trans _ _ _ := Std.lt_trans

/-! ### Comparing parameters -/

/-- The order of parameters: none is first, then come integers by their values and the writings of one integer by their text, and last the other texts. -/
inductive ComesBefore : Option String → Option String → Prop
  | absent {right : String} : ComesBefore none (some right)
  | integers {left right : String} {m n : Int} (hleft : WritesInt64 left m)
      (hright : WritesInt64 right n) (hlt : m < n) : ComesBefore (some left) (some right)
  | writings {left right : String} {n : Int} (hleft : WritesInt64 left n)
      (hright : WritesInt64 right n) (hlt : left < right) : ComesBefore (some left) (some right)
  | kinds {left right : String} {m : Int} (hleft : WritesInt64 left m)
      (hright : ∀ n, ¬WritesInt64 right n) : ComesBefore (some left) (some right)
  | texts {left right : String} (hleft : ∀ m, ¬WritesInt64 left m)
      (hright : ∀ n, ¬WritesInt64 right n) (hlt : left < right) : ComesBefore (some left) (some right)

theorem ofSegment_of_writes {text : String} {value : Int} (h : WritesInt64 text value) :
    ofSegment (some text) = numeric value text := by
  rw [ofSegment, readInt64?_eq_some.2 h]

theorem ofSegment_of_not_writes {text : String} (h : ∀ value, ¬WritesInt64 text value) :
    ofSegment (some text) = textual text := by
  rw [ofSegment, readInt64?_eq_none.2 h]

theorem ofSegment_lt_of_comesBefore {left right : Option String} (h : ComesBefore left right) :
    ofSegment left < ofSegment right := by
  cases h with
  | absent => exact absent_lt_iff.2 fun h => nomatch ofSegment_eq_absent.1 h
  | integers hleft hright hlt =>
      rw [ofSegment_of_writes hleft, ofSegment_of_writes hright, numeric_lt_numeric]
      exact .inl hlt
  | writings hleft hright hlt =>
      rw [ofSegment_of_writes hleft, ofSegment_of_writes hright, numeric_lt_numeric]
      exact .inr ⟨rfl, hlt⟩
  | kinds hleft hright =>
      rw [ofSegment_of_writes hleft, ofSegment_of_not_writes hright]
      exact numeric_lt_textual
  | texts hleft hright hlt =>
      rw [ofSegment_of_not_writes hleft, ofSegment_of_not_writes hright, textual_lt_textual]
      exact hlt

theorem comesBefore_of_ofSegment_lt {left right : Option String}
    (h : ofSegment left < ofSegment right) : ComesBefore left right := by
  have hcases (text : String) :
      (∃ value, WritesInt64 text value) ∨ ∀ value, ¬WritesInt64 text value := by
    rw [← not_exists]
    exact em _
  cases right with
  | none => exact absurd h not_lt_absent
  | some right =>
    cases left with
    | none => exact .absent
    | some left =>
      rcases hcases left with ⟨m, hleft⟩ | hleft <;> rcases hcases right with ⟨n, hright⟩ | hright
      · rw [ofSegment_of_writes hleft, ofSegment_of_writes hright, numeric_lt_numeric] at h
        rcases h with hlt | ⟨rfl, hlt⟩
        · exact .integers hleft hright hlt
        · exact .writings hleft hright hlt
      · exact .kinds hleft hright
      · rw [ofSegment_of_not_writes hleft, ofSegment_of_writes hright] at h
        exact absurd h not_textual_lt_numeric
      · rw [ofSegment_of_not_writes hleft, ofSegment_of_not_writes hright, textual_lt_textual] at h
        exact .texts hleft hright h

/-- Keys are in the order of their parameters. -/
theorem ofSegment_lt_iff {left right : Option String} :
    ofSegment left < ofSegment right ↔ ComesBefore left right :=
  ⟨comesBefore_of_ofSegment_lt, ofSegment_lt_of_comesBefore⟩

end AxisKey

/-! ### Axes -/

namespace Panels

/-- The panels of some entries, filed one after the other. -/
def filed (entries : List (String × Float)) : Panels :=
  entries.foldl (fun panels entry => panels.add entry.1 entry.2) .empty

/-- Results are filed in the order of their names. -/
theorem filed_entries (results : Results) (restriction : Option (SortedSet String)) :
    filed (results.restrict (admits restriction)).entries = ofResults results restriction := rfl

/-- A list of the parameters of a group: each is there once, and they are in the order of parameters. -/
structure ListsParameters (names : List String) (group : String) (parameters : List (Option String)) :
    Prop where
  complete : ∀ parameter, parameter ∈ parameters ↔ ∃ name ∈ names,
    (NameParts.ofName name).group = group ∧ (NameParts.ofName name).parameter = parameter
  once : parameters.Nodup
  ordered : parameters.Pairwise AxisKey.ComesBefore

theorem mem_keysOf_filed {entries : List (String × Float)} {group : String} {key : AxisKey} :
    key ∈ (filed entries).keysOf group ↔ ∃ name ∈ entries.map Prod.fst,
      (NameParts.ofName name).group = group ∧
        AxisKey.ofSegment (NameParts.ofName name).parameter = key := by
  have hnone : key ∉ keysOf .empty group := List.not_mem_nil
  rw [filed, mem_keysOf_foldl, or_iff_left hnone]
  constructor
  · rintro ⟨entry, hentry, hgroup, hkey⟩
    exact ⟨entry.1, List.mem_map_of_mem hentry, hgroup, hkey⟩
  · rintro ⟨name, hname, hgroup, hkey⟩
    obtain ⟨entry, hentry, rfl⟩ := List.mem_map.1 hname
    exact ⟨entry, hentry, hgroup, hkey⟩

theorem keysOf_ascending (panels : Panels) (group : String) :
    (panels.keysOf group).Pairwise (· < ·) := keys_ascending _

/-- The keys of a group are those of its parameters, in their order. -/
theorem exists_parameters (entries : List (String × Float)) (group : String) :
    ∃ parameters, ListsParameters (entries.map Prod.fst) group parameters ∧
      (filed entries).keysOf group = parameters.map AxisKey.ofSegment := by
  have hread : ∀ key ∈ (filed entries).keysOf group, AxisKey.ofSegment key.text? = key := by
    intro key hkey
    obtain ⟨name, _, _, rfl⟩ := mem_keysOf_filed.1 hkey
    rw [AxisKey.text?_ofSegment]
  have hkeys : (filed entries).keysOf group =
      (((filed entries).keysOf group).map AxisKey.text?).map AxisKey.ofSegment := by
    rw [List.map_map]
    exact ((List.map_congr_left hread).trans (List.map_id _)).symm
  have hascending := keysOf_ascending (filed entries) group
  rw [hkeys, List.pairwise_map] at hascending
  refine ⟨_, ⟨fun parameter => ?_, ?_, ?_⟩, hkeys⟩
  · rw [List.mem_map]
    constructor
    · rintro ⟨key, hkey, rfl⟩
      obtain ⟨name, hname, hgroup, rfl⟩ := mem_keysOf_filed.1 hkey
      exact ⟨name, hname, hgroup, (AxisKey.text?_ofSegment _).symm⟩
    · rintro ⟨name, hname, hgroup, rfl⟩
      exact ⟨_, mem_keysOf_filed.2 ⟨name, hname, hgroup, rfl⟩, AxisKey.text?_ofSegment _⟩
  · exact nodup_of_ascending AxisKey.ofSegment hascending
  · exact hascending.imp AxisKey.ofSegment_lt_iff.1

theorem ListsParameters.perm {names others : List String} {group : String}
    {parameters : List (Option String)} (h : ListsParameters names group parameters)
    (hperm : names.Perm others) : ListsParameters others group parameters :=
  ⟨fun parameter => by simp only [h.complete, hperm.mem_iff], h.once, h.ordered⟩

end Panels

namespace Chart

theorem clusters_of_mem_ofPanels {settings : Settings} {panels : Panels} {chart : Chart}
    (h : chart ∈ ofPanels settings panels) {categories : List String} {caption : String}
    {series : List PlotSeries} {logarithmic : Bool}
    (hplot : chart.plot = .clusters categories caption series logarithmic) :
    categories = (panels.keysOf chart.group).map (fun key => key.text?.getD chart.group) ∧
      ∀ one ∈ series, one.values = (panels.keysOf chart.group).map fun key =>
        (panels.value? chart.group key one.variant).map chart.unit.convert := by
  obtain ⟨⟨group, panel⟩, hentry, hof⟩ := List.mem_filterMap.1 h
  rw [ofPanel?] at hof
  split at hof
  · cases hof
  · split at hof
    · cases hof
      exact clusters_ofClusters (mem_entries.1 hentry) settings _ hplot
    · cases hof
      cases hplot

/-- Keys tell parameters apart and put all of them in one order. Results are filed by name, but a chart of clusters has one category for each parameter of its group, in the order of parameters, whatever the order of the filing, and its series have their values for a parameter at the place of its category. -/
theorem categories_ordered :
    Function.Injective AxisKey.ofSegment ∧
      IsStrictTotalOrder AxisKey (· < ·) ∧
      (∀ left right, AxisKey.ofSegment left < AxisKey.ofSegment right ↔
        AxisKey.ComesBefore left right) ∧
      (∀ results restriction, .filed (results.restrict (Panels.admits restriction)).entries =
        Panels.ofResults results restriction) ∧
      ∀ settings results restriction entries,
        entries.Perm (results.restrict (Panels.admits restriction)).entries →
        ∀ chart ∈ ofPanels settings (.filed entries), ∀ categories caption series logarithmic,
          chart.plot = .clusters categories caption series logarithmic →
          ∃ parameters,
            Panels.ListsParameters (Panels.keptNames results restriction) chart.group parameters ∧
              categories = parameters.map (fun parameter => parameter.getD chart.group) ∧
              ∀ one ∈ series, one.values = parameters.map fun parameter =>
                ((Panels.filed entries).value? chart.group (.ofSegment parameter) one.variant).map
                  chart.unit.convert := by
  refine ⟨fun _ _ => AxisKey.ofSegment_inj.1, AxisKey.isStrictTotalOrder,
    fun _ _ => AxisKey.ofSegment_lt_iff, Panels.filed_entries, ?_⟩
  intro settings results restriction entries hperm chart hchart categories caption series logarithmic
    hplot
  obtain ⟨parameters, hlists, hkeys⟩ := Panels.exists_parameters entries chart.group
  obtain ⟨hcategories, hseries⟩ := clusters_of_mem_ofPanels hchart hplot
  refine ⟨parameters, ?_, ?_, fun one hone => ?_⟩
  · rw [Panels.keptNames_eq]
    exact hlists.perm (hperm.map Prod.fst)
  · rw [hcategories, hkeys, List.map_map]
    exact List.map_congr_left fun parameter _ => congrArg (·.getD chart.group) (AxisKey.text?_ofSegment _)
  · rw [hseries one hone, hkeys, List.map_map]
    rfl

/-- Integers in several writings, one of them too large for sixty-four bits, and parameters that are none. -/
def writings : Results :=
  .ofList [("g/a", 1), ("g/a/-1", 2), ("g/a/+8", 3), ("g/a/08", 4), ("g/a/8", 5), ("g/a/", 6),
    ("g/a/9223372036854775808", 7), ("g/a/large", 8)]

theorem categories_ordered_writings :
    ∃ parameters, Panels.ListsParameters (Panels.keptNames writings none) "g" parameters ∧
      ["g", "-1", "+8", "08", "8", "", "9223372036854775808", "large"] =
        parameters.map fun parameter => parameter.getD "g" := by
  obtain ⟨_, _, _, _, haxes⟩ := categories_ordered
  have hperm := (writings.restrict (Panels.admits none)).entries.reverse_perm
  have hplots : (ofPanels Settings.standard
      (.filed (writings.restrict (Panels.admits none)).entries.reverse)).map
        (fun chart => (chart.group, chart.plot)) =
      [("g", .clusters ["g", "-1", "+8", "08", "8", "", "9223372036854775808", "large"] "Parameter"
        [⟨"a", "a", "#999999", [some 1, some 2, some 3, some 4, some 5, some 6, some 7, some 8]⟩]
        false)] := by decide +kernel
  obtain ⟨chart, hchart, hplot⟩ := List.mem_map.1 (hplots ▸ List.mem_singleton_self _)
  rw [Prod.mk.injEq] at hplot
  obtain ⟨parameters, hlists, hcategories, _⟩ := haxes Settings.standard writings none _ hperm chart hchart
    _ _ _ _ hplot.2
  rw [hplot.1] at hlists hcategories
  exact ⟨parameters, hlists, hcategories⟩

end Chart

end BenchReport

import BenchReport.FileTree.Change
import BenchReport.Proofs.Chart.Faithful
import BenchReport.Settings.Document
import BenchReport.Settings.Preset

/-!
# The order in which variants are drawn

Variants are drawn in two parts, the present ones that the preference lists, as it lists them, and then the other present ones by name. The parts have no variant in common and the second has none twice, so every repeat in a drawing order is a repeat in the preference: a present variant that is listed several times is drawn several times. Apart from these repeats the order is the one that a preference stands for, with every present variant once and the preferred ones by their first place in the list.
-/

namespace BenchReport

open SortedMap

/-! ### Lists without their repeats -/

section Repeats

variable {α : Type} [DecidableEq α]

/-- Dropping the repeats leaves the kept members of a list by their first places in it. -/
theorem pairwise_idxOf_eraseDups (list : List α) (keep : α → Bool) :
    (list.filter keep).eraseDups.Pairwise fun a b => list.idxOf a < list.idxOf b := by
  induction list generalizing keep with
  | nil => exact .nil
  | cons first rest ih =>
      -- Behind the first member only others are left, and each of them is one place later.
      have htail (keep : α → Bool) (hkeep : keep first = false) :
          (rest.filter keep).eraseDups.Pairwise
            fun a b => (first :: rest).idxOf a < (first :: rest).idxOf b := by
        have hne (a) (ha : a ∈ (rest.filter keep).eraseDups) : first ≠ a := by
          rintro rfl
          rw [List.mem_eraseDups, List.mem_filter, hkeep] at ha
          exact absurd ha.2 Bool.false_ne_true
        refine (ih keep).imp_of_mem fun ha hb hlt => ?_
        rw [List.idxOf_cons_ne rest (hne _ ha), List.idxOf_cons_ne rest (hne _ hb)]
        exact Nat.succ_lt_succ hlt
      cases hkeep : keep first with
      | false =>
          rw [List.filter_cons_of_neg (by simp [hkeep])]
          exact htail keep hkeep
      | true =>
          rw [List.filter_cons_of_pos hkeep, List.eraseDups_cons, List.filter_filter]
          refine List.pairwise_cons.2 ⟨fun other hother => ?_, htail _ (by simp)⟩
          rw [List.mem_eraseDups, List.mem_filter, Bool.and_eq_true, Bool.not_eq_true',
            beq_eq_false_iff_ne] at hother
          rw [List.idxOf_cons_self, List.idxOf_cons_ne rest hother.2.1.symm]
          exact Nat.succ_pos _

theorem nodup_eraseDups (list : List α) : list.eraseDups.Nodup := by
  have hplaces := pairwise_idxOf_eraseDups list fun _ => true
  rw [List.filter_true] at hplaces
  refine hplaces.imp ?_
  rintro a _ hlt rfl
  exact Nat.lt_irrefl _ hlt

theorem eraseDups_of_nodup {list : List α} (h : list.Nodup) : list.eraseDups = list := by
  induction list with
  | nil => rfl
  | cons first rest ih =>
      obtain ⟨hfirst, hrest⟩ := List.nodup_cons.1 h
      have hothers : rest.filter (fun a => !a == first) = rest := by
        refine List.filter_eq_self.2 fun a ha => ?_
        simp only [Bool.not_eq_true', beq_eq_false_iff_ne]
        rintro rfl
        exact hfirst ha
      rw [List.eraseDups_cons, hothers, ih hrest]

end Repeats

/-! ### The order that a preference stands for -/

/-- Whether a preference puts one variant before another: listed ones by their first places, before the others, which go by name. -/
def Precedes (preference : List String) (a b : String) : Prop :=
  a ∈ preference ∧ (b ∉ preference ∨ preference.idxOf a < preference.idxOf b) ∨
    a ∉ preference ∧ b ∉ preference ∧ a < b

/-- What an order owes the variants that are present: each is there once, and nothing else, in the order that the preference stands for. -/
structure Arranges (present preference order : List String) : Prop where
  complete : ∀ variant, variant ∈ order ↔ variant ∈ present
  once : order.Nodup
  ordered : order.Pairwise (Precedes preference)

section Order

variable (present preference : List String)

theorem mem_unlisted {variants preference : List String} {variant : String} :
    variant ∈ variants.filter (fun variant => !preference.contains variant) ↔
      variant ∈ variants ∧ variant ∉ preference := by
  simp

/-- A present variant is drawn as often as it is listed, but at least once. -/
theorem count_drawingOrder (variant : String) :
    (drawingOrder (.ofList present) preference).count variant =
      if variant ∈ present then max 1 (preference.count variant) else 0 := by
  by_cases hpresent : variant ∈ present
  · have hkey : variant ∈ (SortedSet.ofList present).keys := SortedSet.mem_keys_ofList.2 hpresent
    have hlisted : (preference.filter (SortedSet.ofList present).contains).count variant =
        preference.count variant := List.count_filter (mem_keys_iff_contains.1 hkey)
    rw [if_pos hpresent, drawingOrder, List.count_append, hlisted]
    by_cases hmem : variant ∈ preference
    · have hother : variant ∉ (SortedSet.ofList present).keys.filter
          fun variant => !preference.contains variant := by simp [hmem]
      rw [List.count_eq_zero.2 hother, Nat.add_zero,
        Nat.max_eq_right (List.one_le_count_iff.2 hmem)]
    · have hkeys := nodup_of_ascending id (keys_ascending (SortedSet.ofList present))
      rw [List.count_eq_zero.2 hmem, List.count_filter (by simp [hmem]),
        List.count_eq_one_of_mem hkeys hkey]
      rfl
  · rw [if_neg hpresent, List.count_eq_zero, mem_drawingOrder, SortedSet.mem_keys_ofList]
    exact hpresent

theorem nodup_drawingOrder_iff :
    (drawingOrder (.ofList present) preference).Nodup ↔
      ∀ variant ∈ present, preference.count variant ≤ 1 := by
  rw [List.nodup_iff_count_le_one]
  simp only [count_drawingOrder]
  constructor
  · intro h variant hvariant
    have hcount := h variant
    rw [if_pos hvariant] at hcount
    omega
  · intro h variant
    split
    · rename_i hvariant
      have hcount := h variant hvariant
      omega
    · omega

theorem eraseDups_drawingOrder :
    (drawingOrder (.ofList present) preference).eraseDups =
      (preference.filter (SortedSet.ofList present).contains).eraseDups ++
        (SortedSet.ofList present).keys.filter fun variant => !preference.contains variant := by
  have hkeys := nodup_of_ascending id (keys_ascending (SortedSet.ofList present))
  rw [drawingOrder, List.eraseDups_append]
  congr 1
  have hothers : ((SortedSet.ofList present).keys.filter
      fun variant => !preference.contains variant).removeAll
        (preference.filter (SortedSet.ofList present).contains) =
      (SortedSet.ofList present).keys.filter fun variant => !preference.contains variant := by
    refine List.filter_eq_self.2 fun variant hvariant => ?_
    simp [(mem_unlisted.1 hvariant).2]
  rw [hothers, eraseDups_of_nodup (hkeys.filter _)]

theorem eraseDups_drawingOrder_arranges :
    Arranges present preference (drawingOrder (.ofList present) preference).eraseDups where
  complete variant := by
    rw [List.mem_eraseDups, mem_drawingOrder, SortedSet.mem_keys_ofList]
  once := nodup_eraseDups _
  ordered := by
    rw [eraseDups_drawingOrder, List.pairwise_append]
    refine ⟨?_, ?_, fun a ha b hb => ?_⟩
    · refine (pairwise_idxOf_eraseDups preference _).imp_of_mem fun ha _ hlt => ?_
      rw [List.mem_eraseDups, List.mem_filter] at ha
      exact .inl ⟨ha.1, .inr hlt⟩
    · refine ((keys_ascending _).filter _).imp_of_mem fun ha hb hlt => ?_
      exact .inr ⟨(mem_unlisted.1 ha).2, (mem_unlisted.1 hb).2, hlt⟩
    · rw [List.mem_eraseDups, List.mem_filter] at ha
      exact .inl ⟨ha.1, .inl (mem_unlisted.1 hb).2⟩

theorem arranges_drawingOrder_iff :
    Arranges present preference (drawingOrder (.ofList present) preference) ↔
      ∀ variant ∈ present, preference.count variant ≤ 1 := by
  rw [← nodup_drawingOrder_iff]
  refine ⟨Arranges.once, fun h => ?_⟩
  have harranges := eraseDups_drawingOrder_arranges present preference
  rwa [eraseDups_of_nodup h] at harranges

end Order

/-! ### Charts -/

/-- The variants of the kept names of a group. -/
def Panels.groupVariants (results : Results) (restriction : Option (SortedSet String))
    (group : String) : List String :=
  ((keptNames results restriction).filter fun name => (NameParts.ofName name).group = group).map
    Results.variantOf

theorem Panels.forall_mem_groupVariants {results : Results} {restriction : Option (SortedSet String)}
    {group : String} {p : String → Prop} :
    (∀ variant ∈ groupVariants results restriction group, p variant) ↔
      ∀ name ∈ keptNames results restriction, (NameParts.ofName name).group = group →
        p (NameParts.ofName name).variant := by
  rw [groupVariants, List.forall_mem_map]
  simp only [List.mem_filter, decide_eq_true_eq, and_imp, Results.variantOf]

namespace Chart

variable {settings : Settings} {results : Results} {restriction : Option (SortedSet String)}

theorem variantsOf_ofPanel? {group : String} {panel : Panel} {chart : Chart}
    (h : ofPanel? settings group panel = some chart) :
    variantsOf chart.plot = drawingOrder panel.variants settings.displayOrder := by
  rw [ofPanel?] at h
  split at h
  · cases h
  · split at h
    · cases h
      exact variantsOf_ofClusters settings group panel _
    · cases h
      exact variantsOf_ofSingle settings group panel _

/-- A chart draws the variants of its group in their drawing order. -/
theorem variantsOf_of_mem_ofPanels {chart : Chart}
    (h : chart ∈ ofPanels settings (.ofResults results restriction)) :
    variantsOf chart.plot =
      drawingOrder (.ofList (Panels.groupVariants results restriction chart.group))
        settings.displayOrder := by
  obtain ⟨⟨group, panel⟩, hentry, hof⟩ := List.mem_filterMap.1 h
  have hpanel := mem_entries.1 hentry
  have hsame : panel.variants = .ofList (Panels.groupVariants results restriction group) := by
    refine SortedSet.ext fun variant => ?_
    rw [← @mem_drawingOrder panel.variants [], mem_drawingOrder_iff_kept hpanel,
      SortedSet.mem_keys_ofList]
    simp [Panels.groupVariants, Results.variantOf, and_assoc]
  rw [variantsOf_ofPanel? hof, hsame, group_ofPanel? hof]

end Chart

/-! ### Repeats -/

/-- A drawing order repeats a variant only as often as the preference does; without the repeats every present variant is there once, in the order that the preference stands for, and there are none exactly if the preference lists no present variant twice. The same goes for the variants that a chart draws. -/
theorem drawingOrder_repeats (present preference : List String) :
    (∀ variant, (drawingOrder (.ofList present) preference).count variant =
        if variant ∈ present then max 1 (preference.count variant) else 0) ∧
      Arranges present preference (drawingOrder (.ofList present) preference).eraseDups ∧
      (Arranges present preference (drawingOrder (.ofList present) preference) ↔
        ∀ variant ∈ present, preference.count variant ≤ 1) ∧
      ∀ settings results restriction,
        ∀ chart ∈ Chart.ofPanels settings (.ofResults results restriction),
          Chart.variantsOf chart.plot =
              drawingOrder (.ofList (Panels.groupVariants results restriction chart.group))
                settings.displayOrder ∧
            ((Chart.variantsOf chart.plot).Nodup ↔
              ∀ name ∈ Panels.keptNames results restriction,
                (NameParts.ofName name).group = chart.group →
                  settings.displayOrder.count (NameParts.ofName name).variant ≤ 1) := by
  refine ⟨count_drawingOrder present preference, eraseDups_drawingOrder_arranges present preference,
    arranges_drawingOrder_iff present preference, fun settings results restriction chart hchart => ?_⟩
  have hvariants := Chart.variantsOf_of_mem_ofPanels hchart
  refine ⟨hvariants, ?_⟩
  rw [hvariants, nodup_drawingOrder_iff, Panels.forall_mem_groupVariants]

/-- One group with two variants, and a variant of another group. -/
def twoTools : Results := .ofList [("g/a/8", 2), ("g/b/8", 1), ("g/b/64", 3), ("h/zz", 4)]

/-- A preference that repeats a variant behind another one. -/
def repeating : Settings := { Settings.standard with displayOrder := ["zz", "b", "a", "b"] }

theorem drawingOrder_repeats_twoTools :
    ∃ chart ∈ Chart.ofPanels repeating (.ofResults twoTools none), chart.group = "g" ∧
      Chart.variantsOf chart.plot = ["b", "a", "b"] ∧ ¬(Chart.variantsOf chart.plot).Nodup := by
  have hthere : "g" ∈ (Chart.ofPanels repeating (.ofResults twoTools none)).map Chart.group := by
    decide +kernel
  obtain ⟨chart, hchart, hgroup⟩ := List.mem_map.1 hthere
  obtain ⟨_, _, _, hcharts⟩ := drawingOrder_repeats ["a", "b"] repeating.displayOrder
  obtain ⟨hvariants, _⟩ := hcharts repeating twoTools none chart hchart
  have hdrawn : drawingOrder (.ofList (Panels.groupVariants twoTools none "g"))
      repeating.displayOrder = ["b", "a", "b"] := by decide +kernel
  rw [hgroup, hdrawn] at hvariants
  refine ⟨chart, hchart, hgroup, hvariants, ?_⟩
  rw [hvariants]
  decide

/-- A file of settings may list a variant twice, and then it is drawn twice: the order of the present variants is no arrangement of them, and a chart has two equal bars. -/
theorem not_arranges_of_listed_twice :
    Settings.standard.patchedBy (FileTree.empty.withFile "report.json"
        (.text "\x7b\"display_order\": [\"a\", \"a\"]\x7d")) "report.json" =
      .ok { Settings.standard with displayOrder := ["a", "a"] } ∧
    drawingOrder (.ofList ["a", "b"]) ["a", "a"] = ["a", "a", "b"] ∧
    ¬Arranges ["a", "b"] ["a", "a"] (drawingOrder (.ofList ["a", "b"]) ["a", "a"]) ∧
    (Chart.ofPanels { Settings.standard with displayOrder := ["a", "a"] }
        (.ofResults (.ofList [("g/a", 1)]) none)).map (fun chart => chart.plot) =
      [.bars [⟨"a", "a", "#999999", 1⟩, ⟨"a", "a", "#999999", 1⟩]] := by
  refine ⟨by decide +kernel, by decide +kernel, fun h => ?_, by decide +kernel⟩
  have hrepeat : ¬(drawingOrder (.ofList ["a", "b"]) ["a", "a"]).Nodup := by decide +kernel
  exact hrepeat h.once

end BenchReport

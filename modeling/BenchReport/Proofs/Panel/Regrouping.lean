import BenchReport.Proofs.Name
import BenchReport.Proofs.Panel

/-!
# Panels regroup results

What a panel shows at a place is told by the results alone: it is the value of the greatest admitted name that belongs there, since names are filed in increasing order and a later one overwrites an earlier one. Filing never leaves a panel or a cluster without a value, so panels with the same values are the same panels, and it does not matter whether variants are left out before the filing or taken out after it.

Two names of at most three segments share a place only if one is the group of the other and the other has this group for its variant, because a parameter's key keeps its text.
-/

namespace BenchReport

open SortedMap

/-! ### Maps of maps -/

section Nested

variable {κ ι α β : Type}
variable [LE κ] [LT κ] [DecidableEq κ] [Std.LawfulOrderLT κ] [LT ι]

/-- Changes the inner maps and drops those that are left empty. -/
def SortedMap.shrink (f : SortedMap ι α → SortedMap ι β) (map : SortedMap κ (SortedMap ι α)) :
    SortedMap κ (SortedMap ι β) :=
  (map.mapValues fun _ inner => f inner).filter fun _ inner => !inner.isEmpty

theorem SortedMap.get?_shrink (f : SortedMap ι α → SortedMap ι β)
    (map : SortedMap κ (SortedMap ι α)) (key : κ) :
    (map.shrink f).get? key = ((map.get? key).map f).filter fun inner => !inner.isEmpty := by
  rw [shrink, get?_filter, get?_mapValues]

theorem SortedMap.of_mem_values_shrink {f : SortedMap ι α → SortedMap ι β}
    {map : SortedMap κ (SortedMap ι α)} {changed : SortedMap ι β}
    (h : changed ∈ (map.shrink f).values) :
    changed ≠ .empty ∧ ∃ inner ∈ map.values, f inner = changed := by
  obtain ⟨key, hkey⟩ := mem_values.1 h
  rw [get?_shrink, Option.filter_eq_some_iff] at hkey
  obtain ⟨inner, hinner, hchanged⟩ := Option.map_eq_some_iff.1 hkey.1
  refine ⟨fun hempty => ?_, inner, mem_values.2 ⟨key, hinner⟩, hchanged⟩
  rw [hempty] at hkey
  cases hkey.2

variable [LE ι] [DecidableEq ι] [Std.IsLinearOrder ι] [Std.LawfulOrderLT ι]

/-- Where an inner map is missing, it is as if it was empty, so nothing is lost with those that are dropped. -/
theorem SortedMap.getD_get?_shrink {f : SortedMap ι α → SortedMap ι β} (hf : f .empty = .empty)
    (map : SortedMap κ (SortedMap ι α)) (key : κ) :
    ((map.shrink f).get? key).getD .empty = f ((map.get? key).getD .empty) := by
  rw [get?_shrink]
  cases map.get? key with
  | none => exact hf.symm
  | some inner =>
    rw [Option.map_some, Option.filter_some, Option.getD_some]
    cases hempty : (f inner).isEmpty with
    | false => rfl
    | true => exact (eq_empty_of_isEmpty hempty).symm

end Nested

namespace Panels

/-! ### Panels without gaps -/

/-- Panels that are there for some value: each has a cluster, and each of its clusters has a value. -/
def Filled (panels : Panels) : Prop :=
  ∀ panel ∈ panels.values, panel ≠ .empty ∧ ∀ cluster ∈ panel.values, cluster ≠ .empty

theorem filled_empty : Filled .empty := nofun

theorem filled_add {panels : Panels} (h : panels.Filled) (name : String) (value : Float) :
    (panels.add name value).Filled := by
  refine forall_mem_values_update h ⟨update_ne_empty, ?_⟩
  refine forall_mem_values_update (fun cluster hcluster => ?_) insert_ne_empty
  cases hpanel : panels.get? (NameParts.ofName name).group with
  | none =>
    rw [hpanel] at hcluster
    cases hcluster
  | some panel =>
    rw [hpanel] at hcluster
    exact (h panel (mem_values.2 ⟨_, hpanel⟩)).2 cluster hcluster

theorem filled_foldl {panels : Panels} (h : panels.Filled) (entries : List (String × Float)) :
    (entries.foldl (fun panels entry => panels.add entry.1 entry.2) panels).Filled := by
  induction entries generalizing panels with
  | nil => exact h
  | cons entry rest ih => exact ih (filled_add h entry.1 entry.2)

theorem filled_ofResults (results : Results) (restriction : Option (SortedSet String)) :
    (ofResults results restriction).Filled :=
  filled_foldl filled_empty _

/-- Panels without gaps are determined by their values. -/
theorem Filled.ext {left right : Panels} (hleft : left.Filled) (hright : right.Filled)
    (h : ∀ group key variant, left.value? group key variant = right.value? group key variant) :
    left = right := by
  have hclusters {panels : Panels} (hfilled : panels.Filled) (group : String) :
      ∀ cluster ∈ ((panels.get? group).getD .empty).values, cluster ≠ .empty := by
    cases hpanel : panels.get? group with
    | none => exact nofun
    | some panel => exact (hfilled panel (mem_values.2 ⟨group, hpanel⟩)).2
  refine ext_getD (fun panel hpanel => (hleft panel hpanel).1)
    (fun panel hpanel => (hright panel hpanel).1) fun group => ?_
  refine ext_getD (hclusters hleft group) (hclusters hright group) fun key => ?_
  refine ext_get? fun variant => ?_
  rw [← value?_eq, ← value?_eq, h]

/-! ### Variants taken out -/

/-- Takes the values of some variants out, and with them the clusters and panels that hold no others. -/
def pruned (wanted : String → Bool) (panels : Panels) : Panels :=
  panels.shrink (shrink fun cluster : Cluster => cluster.filter fun variant _ => wanted variant)

theorem filled_pruned (wanted : String → Bool) (panels : Panels) : (panels.pruned wanted).Filled := by
  intro panel hpanel
  obtain ⟨hne, original, _, rfl⟩ := of_mem_values_shrink hpanel
  exact ⟨hne, fun cluster hcluster => (of_mem_values_shrink hcluster).1⟩

theorem value?_pruned (wanted : String → Bool) (panels : Panels) (group : String) (key : AxisKey)
    (variant : String) :
    (panels.pruned wanted).value? group key variant =
      if wanted variant then panels.value? group key variant else none := by
  rw [value?_eq, value?_eq, pruned, getD_get?_shrink rfl, getD_get?_shrink rfl, get?_filter]
  generalize ((((panels.get? group).getD .empty).get? key).getD .empty).get? variant = held
  cases held <;> cases wanted variant <;> rfl

/-! ### Places -/

/-- A place holds the value of the greatest admitted name that belongs there. -/
theorem value?_ofResults_eq_some {results : Results} {restriction : Option (SortedSet String)}
    {group : String} {key : AxisKey} {variant : String} {value : Float} :
    (ofResults results restriction).value? group key variant = some value ↔
      admits restriction variant = true ∧ ∃ name, results.get? name = some value ∧
        placeOf name = (group, key, variant) ∧
        ∀ other ∈ results.keys, placeOf other = (group, key, variant) → other ≤ name := by
  have hvariant {name : String} (h : placeOf name = (group, key, variant)) :
      Results.variantOf name = variant := congrArg (·.2.2) h
  rw [value?_ofResults, Option.map_eq_some_iff]
  constructor
  · intro ⟨⟨name, held⟩, hfound, hheld⟩
    obtain ⟨hname, hplace, hgreatest⟩ := (find?_reverse_entries
      (p := fun name => placeOf name = (group, key, variant))).1 hfound
    rw [decide_eq_true_iff] at hplace
    rw [Results.restrict, get?_filter, Option.filter_eq_some_iff, hvariant hplace] at hname
    refine ⟨hname.2, name, hheld ▸ hname.1, hplace, fun other hother hat => ?_⟩
    refine hgreatest other (mem_keys_filter.2 ⟨hother, ?_⟩) (decide_eq_true hat)
    rw [hvariant hat, hname.2]
  · intro ⟨hadmits, name, hname, hplace, hgreatest⟩
    refine ⟨(name, value), (find?_reverse_entries
      (p := fun name => placeOf name = (group, key, variant))).2
        ⟨?_, decide_eq_true hplace, fun other hother hat => ?_⟩, rfl⟩
    · rw [Results.restrict, get?_filter, Option.filter_eq_some_iff, hvariant hplace]
      exact ⟨hname, hadmits⟩
    · exact hgreatest other (mem_keys_filter.1 hother).1 (of_decide_eq_true hat)

/-- Of short names only a group and the name of this group with itself for its variant share a place. -/
theorem eq_or_pair_of_placeOf_eq {name other : String} (hname : NameParts.IsShort name)
    (hother : NameParts.IsShort other) (h : placeOf name = placeOf other) :
    name = other ∨ other = name ++ "/" ++ name ∨ name = other ++ "/" ++ other := by
  rw [placeOf, placeOf, Prod.mk.injEq, Prod.mk.injEq, AxisKey.ofSegment_inj] at h
  obtain ⟨hgroup, hparameter, hvariant⟩ := h
  have hback := NameParts.toName_ofName hname
  have hbackOther := NameParts.toName_ofName hother
  cases hlone : (NameParts.ofName name).lone <;> cases hloneOther : (NameParts.ofName other).lone
  · rw [NameParts.toName, hlone, hgroup, hvariant, hparameter] at hback
    rw [NameParts.toName, hloneOther] at hbackOther
    exact .inl (hback.symm.trans hbackOther)
  · rw [NameParts.ofName_of_lone hloneOther] at hgroup hparameter hvariant
    rw [NameParts.toName, hlone, hgroup, hvariant, hparameter] at hback
    exact .inr (.inr hback.symm)
  · rw [NameParts.ofName_of_lone hlone] at hgroup hparameter hvariant
    rw [NameParts.toName, hloneOther, ← hgroup, ← hvariant, ← hparameter] at hbackOther
    exact .inr (.inl hbackOther.symm)
  · rw [NameParts.ofName_of_lone hlone, NameParts.ofName_of_lone hloneOther] at hgroup
    exact .inl hgroup

theorem eq_of_placeOf_eq {results : Results} (hshort : ∀ name ∈ results.keys, NameParts.IsShort name)
    (hapart : ∀ name ∈ results.keys, name ++ "/" ++ name ∉ results.keys) {name other : String}
    (hname : name ∈ results.keys) (hother : other ∈ results.keys)
    (h : placeOf name = placeOf other) : name = other := by
  obtain heq | hpair | hpair :=
    eq_or_pair_of_placeOf_eq (hshort name hname) (hshort other hother) h
  · exact heq
  · exact absurd (hpair ▸ hother) (hapart name hname)
  · exact absurd (hpair ▸ hname) (hapart other hother)

/-! ### Restrictions -/

/-- Leaving variants out before the filing is filing what is left. -/
theorem ofResults_restrict (results : Results) (set : SortedSet String) :
    ofResults results (some set) = ofResults (results.restrict set.contains) none := by
  have hall : (results.restrict set.contains).restrict (admits none) =
      results.restrict set.contains := by
    apply ext_get?
    intro name
    rw [Results.restrict, get?_filter]
    cases (results.restrict set.contains).get? name <;> rfl
  rw [ofResults, ofResults, hall]
  rfl

/-- Leaving variants out before the filing is taking them out after it. -/
theorem ofResults_pruned (results : Results) (set : SortedSet String) :
    ofResults results (some set) = (ofResults results none).pruned set.contains := by
  refine (filled_ofResults results _).ext (filled_pruned _ _) fun group key variant => ?_
  rw [value?_pruned]
  apply Option.ext
  intro value
  cases hset : set.contains variant with
  | false => simp [value?_ofResults_eq_some, admits, hset]
  | true => simp [value?_ofResults_eq_some, admits, hset]

/-! ### The regrouping -/

/-- Panels that hold the admitted results, each at its place. -/
structure Regroups (results : Results) (restriction : Option (SortedSet String)) (panels : Panels) :
    Prop where
  /-- A place holds the value of the greatest name that belongs there, if its variant is admitted. -/
  value : ∀ group key variant value, panels.value? group key variant = some value ↔
    admits restriction variant = true ∧ ∃ name, results.get? name = some value ∧
      placeOf name = (group, key, variant) ∧
      ∀ other ∈ results.keys, placeOf other = (group, key, variant) → other ≤ name
  filled : panels.Filled
  /-- No name hides another, unless there is a fourth segment or a group beside a variant of its name. -/
  retrieved : (∀ name ∈ results.keys, NameParts.IsShort name) →
    (∀ name ∈ results.keys, name ++ "/" ++ name ∉ results.keys) →
    ∀ name value, results.get? name = some value → admits restriction (Results.variantOf name) = true →
      panels.value? (NameParts.ofName name).group (.ofSegment (NameParts.ofName name).parameter)
        (Results.variantOf name) = some value ∧
      ∀ other ∈ results.keys, placeOf other = placeOf name → other = name

/-- Panels regroup results exactly, and restricting to some variants commutes with it: it does not matter whether the others are left out of the results or taken out of the panels. -/
theorem ofResults_regroups (results : Results) (restriction : Option (SortedSet String)) :
    Regroups results restriction (ofResults results restriction) ∧
    ∀ set : SortedSet String,
      ofResults results (some set) = ofResults (results.restrict set.contains) none ∧
      ofResults results (some set) = (ofResults results none).pruned set.contains := by
  refine ⟨⟨fun _ _ _ _ => value?_ofResults_eq_some, filled_ofResults results restriction, ?_⟩,
    fun set => ⟨ofResults_restrict results set, ofResults_pruned results set⟩⟩
  intro hshort hapart name value hvalue hadmits
  have hname : name ∈ results.keys := mem_keys_of_get? hvalue
  have hown (other) (hother : other ∈ results.keys) (hplace : placeOf other = placeOf name) :
      other = name := eq_of_placeOf_eq hshort hapart hother hname hplace
  refine ⟨value?_ofResults_eq_some.2 ⟨hadmits, name, hvalue, rfl, fun other hother hplace => ?_⟩,
    hown⟩
  obtain rfl := hown other hother hplace
  exact String.le_refl _

/-- Parameters that are one number in several writings, an empty parameter, none, and single segments. -/
def spreadResults : Results :=
  .ofList [("g/a/8", 1), ("g/a/08", 2), ("g/a/+8", 3), ("g/a/", 4), ("g/a", 5), ("g", 6), ("h/h", 7)]

theorem ofResults_regroups_spreadResults :
    (ofResults spreadResults (some (.ofList ["a", "h"]))).value? "g" (.ofSegment (some "08")) "a" =
      some 2 ∧
    (ofResults spreadResults (some (.ofList ["a", "h"]))).value? "h" .absent "h" = some 7 :=
  have h := (ofResults_regroups spreadResults (some (.ofList ["a", "h"]))).1.retrieved
    (by decide +kernel) (by decide +kernel)
  ⟨(h "g/a/08" 2 (by decide +kernel) (by decide +kernel)).1,
    (h "h/h" 7 (by decide +kernel) (by decide +kernel)).1⟩

end Panels

end BenchReport

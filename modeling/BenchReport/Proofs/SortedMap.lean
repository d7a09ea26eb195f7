import BenchReport.SortedMap
import Mathlib.Data.List.Sort

/-!
# Sorted maps are their look-ups

A sorted map is determined by what its look-ups find: the entries are exactly the pairs that a look-up finds, the keys are exactly the names at which it finds something, and both are listed in increasing order. Two maps that agree on every look-up are therefore equal, and so are the parts of two maps on which their look-ups agree.
-/

namespace BenchReport.SortedMap

variable {κ α : Type}

/-! ### Entry lists -/

section Entries

variable [DecidableEq κ]

theorem lookupEntry_eq_find? (key : κ) (entries : List (κ × α)) :
    lookupEntry key entries = (entries.find? fun entry => decide (entry.1 = key)).map Prod.snd := by
  induction entries with
  | nil => rfl
  | cons entry rest ih =>
      rw [lookupEntry, List.find?_cons]
      by_cases hkey : entry.1 = key
      · simp [hkey]
      · simp [hkey, ih]

theorem lookupEntry_eq_some {key : κ} {value : α} {entries : List (κ × α)}
    (h : lookupEntry key entries = some value) : (key, value) ∈ entries := by
  induction entries with
  | nil => simp [lookupEntry] at h
  | cons entry rest ih =>
      rw [lookupEntry] at h
      split at h
      · rename_i hkey
        rw [← hkey, ← Option.some.inj h]
        exact List.mem_cons_self ..
      · exact List.mem_cons_of_mem entry (ih h)

/-- Entries under new names, of which one name comes from one old name only, searched for that name. -/
theorem lookupEntry_filterMap_rename {rename : κ → Option κ} {key other : κ}
    (hrename : ∀ name, rename name = some key ↔ name = other) (entries : List (κ × α)) :
    lookupEntry key (entries.filterMap fun entry => (rename entry.1).map fun name => (name, entry.2)) =
      lookupEntry other entries := by
  induction entries with
  | nil => rfl
  | cons entry rest ih =>
      rw [List.filterMap_cons, lookupEntry]
      by_cases hentry : entry.1 = other
      · rw [(hrename entry.1).2 hentry, if_pos hentry, Option.map_some, lookupEntry, if_pos rfl]
      · rw [if_neg hentry]
        cases hname : rename entry.1 with
        | none => exact ih
        | some name =>
            have hne : name ≠ key := fun he => hentry ((hrename entry.1).1 (he ▸ hname))
            rw [Option.map_some, lookupEntry, if_neg hne]
            exact ih

end Entries

/-! ### Maps made entry by entry -/

section Maps

variable [LT κ]

theorem keys_ascending (map : SortedMap κ α) : map.keys.Pairwise (· < ·) :=
  List.pairwise_map.2 map.ascending

theorem size_eq_length_keys (map : SortedMap κ α) : map.size = map.keys.length := by
  rw [size, keys, List.length_map]

theorem mapValues_mapValues {α β γ : Type} (f : κ → α → β) (g : κ → β → γ) (map : SortedMap κ α) :
    (map.mapValues f).mapValues g = map.mapValues fun key value => g key (f key value) := by
  rw [mapValues, mapValues, mapValues, mk.injEq, List.map_map]
  rfl

theorem mapValues_congr {α β : Type} {f g : κ → α → β} {map : SortedMap κ α}
    (h : ∀ entry ∈ map.entries, f entry.1 entry.2 = g entry.1 entry.2) :
    map.mapValues f = map.mapValues g := by
  rw [mapValues, mapValues, mk.injEq]
  apply List.map_congr_left
  intro entry hentry
  rw [h entry hentry]

variable [DecidableEq κ]

theorem get?_mapValues {β : Type} (f : α → β) (map : SortedMap κ α) (key : κ) :
    (map.mapValues fun _ value => f value).get? key = (map.get? key).map f :=
  lookupEntry_map key f map.entries

theorem isEmpty_eq_false_of_contains {map : SortedMap κ α} {key : κ} (h : map.contains key = true) :
    map.isEmpty = false := by
  rw [isEmpty, List.isEmpty_eq_false_iff]
  intro hempty
  rw [contains, get?, hempty] at h
  cases h

end Maps

/-! ### Increasing lists -/

section Sorting

variable [LE κ] [DecidableLE κ] [Std.IsLinearOrder κ] {γ : Type} (rank : γ → κ)

theorem mergeSort_ascending (list : List γ) :
    (list.mergeSort fun a b => rank a ≤ rank b).Pairwise fun a b => rank a ≤ rank b := by
  have htrans (a b c : γ) (hab : decide (rank a ≤ rank b) = true)
      (hbc : decide (rank b ≤ rank c) = true) : decide (rank a ≤ rank c) = true :=
    decide_eq_true (Std.le_trans (of_decide_eq_true hab) (of_decide_eq_true hbc))
  have htotal (a b : γ) : (decide (rank a ≤ rank b) || decide (rank b ≤ rank a)) = true := by
    rw [Bool.or_eq_true, decide_eq_true_eq, decide_eq_true_eq]
    exact Std.le_total
  exact (List.pairwise_mergeSort htrans htotal list).imp of_decide_eq_true

/-- Where a rank tells the members of a list apart, sorting by it forgets their order. -/
theorem mergeSort_eq_of_perm {left right : List γ} (h : left.Perm right)
    (hrank : ∀ a ∈ left, ∀ b ∈ left, rank a = rank b → a = b) :
    (left.mergeSort fun a b => rank a ≤ rank b) = right.mergeSort fun a b => rank a ≤ rank b := by
  have hleft := List.mergeSort_perm left fun a b => rank a ≤ rank b
  have hright := List.mergeSort_perm right fun a b => rank a ≤ rank b
  refine (hleft.trans (h.trans hright.symm)).eq_of_pairwise (fun a b ha hb hab hba => ?_)
    (mergeSort_ascending rank left) (mergeSort_ascending rank right)
  exact hrank a (hleft.mem_iff.1 ha) b (h.mem_iff.2 (hright.mem_iff.1 hb)) (Std.le_antisymm hab hba)

end Sorting

section Order

variable [LE κ] [LT κ] [Std.LawfulOrderLT κ]

theorem nodup_of_ascending {γ : Type} (rank : γ → κ) {list : List γ}
    (h : list.Pairwise fun a b => rank a < rank b) : list.Nodup := by
  refine h.imp ?_
  rintro a _ hlt rfl
  exact Std.lt_irrefl hlt

section Linear

variable [Std.IsLinearOrder κ]

/-- A list that a rank puts in increasing order is determined by its members. -/
theorem eq_of_ascending {γ : Type} (rank : γ → κ) {left right : List γ}
    (hleft : left.Pairwise fun a b => rank a < rank b)
    (hright : right.Pairwise fun a b => rank a < rank b)
    (hmem : ∀ a, a ∈ left ↔ a ∈ right) : left = right := by
  have hirrefl : Std.Irrefl fun a b => rank a < rank b := ⟨fun a => Std.lt_irrefl⟩
  have hantisymm : Std.Antisymm fun a b => rank a < rank b :=
    ⟨fun a b hab hba => absurd hab (Std.not_lt.2 (Std.le_of_lt hba))⟩
  exact hleft.eq_of_mem_iff hright hmem

/-- A search from the end finds the entry with the greatest key of those that it looks for. -/
theorem greatest_of_find?_reverse {p : κ → Bool} {map : SortedMap κ α} {entry : κ × α}
    (h : (map.entries.reverse.find? fun entry => p entry.1) = some entry) :
    entry ∈ map.entries ∧ p entry.1 = true ∧ ∀ other ∈ map.keys, p other = true → other ≤ entry.1 := by
  obtain ⟨hp, later, earlier, hsplit, hlater⟩ := List.find?_eq_some_iff_append.1 h
  refine ⟨List.mem_reverse.1 (List.mem_of_find?_eq_some h), hp, fun other hother hfits => ?_⟩
  obtain ⟨found, hfound, rfl⟩ := List.mem_map.1 hother
  have hdescending := List.pairwise_reverse.2 map.ascending
  rw [hsplit, List.pairwise_append, List.pairwise_cons] at hdescending
  rw [← List.mem_reverse, hsplit, List.mem_append, List.mem_cons] at hfound
  obtain hfound | rfl | hfound := hfound
  · have hnot := hlater found hfound
    rw [hfits] at hnot
    cases hnot
  · exact Std.le_refl _
  · exact Std.le_of_lt (hdescending.2.1.1 found hfound)

end Linear

/-! ### Look-ups -/

variable [DecidableEq κ]

theorem lookupEntry_of_mem {key : κ} {value : α} {entries : List (κ × α)}
    (hasc : entries.Pairwise fun left right => left.1 < right.1) (h : (key, value) ∈ entries) :
    lookupEntry key entries = some value := by
  induction entries with
  | nil => simp at h
  | cons entry rest ih =>
      have htail := List.pairwise_cons.1 hasc
      rw [lookupEntry]
      rcases List.mem_cons.1 h with rfl | hrest
      · exact if_pos rfl
      · have hne : entry.1 ≠ key := fun he => Std.lt_irrefl (he ▸ htail.1 _ hrest)
        rw [if_neg hne]
        exact ih htail.2 hrest

theorem mem_entries {map : SortedMap κ α} {key : κ} {value : α} :
    (key, value) ∈ map.entries ↔ map.get? key = some value :=
  ⟨lookupEntry_of_mem map.ascending, lookupEntry_eq_some⟩

theorem mem_values {map : SortedMap κ α} {value : α} :
    value ∈ map.values ↔ ∃ key, map.get? key = some value := by
  simp only [values, List.mem_map, Prod.exists, exists_eq_right, mem_entries]

theorem mem_keys {map : SortedMap κ α} {key : κ} : key ∈ map.keys ↔ (map.get? key).isSome := by
  simp only [keys, List.mem_map, Prod.exists, exists_and_right, exists_eq_right, mem_entries,
    Option.isSome_iff_exists]

theorem exists_of_mem_keys {map : SortedMap κ α} {key : κ} (h : key ∈ map.keys) :
    ∃ value, map.get? key = some value :=
  Option.isSome_iff_exists.1 (mem_keys.1 h)

theorem mem_keys_of_get? {map : SortedMap κ α} {key : κ} {value : α}
    (h : map.get? key = some value) : key ∈ map.keys :=
  mem_keys.2 (Option.isSome_of_eq_some h)

theorem mem_keys_iff_contains {map : SortedMap κ α} {key : κ} :
    key ∈ map.keys ↔ map.contains key = true := mem_keys

theorem get?_filter (keep : κ → α → Bool) (map : SortedMap κ α) (key : κ) :
    (map.filter keep).get? key = (map.get? key).filter (keep key) := by
  apply Option.ext
  intro value
  rw [Option.filter_eq_some_iff, ← mem_entries, ← mem_entries]
  exact List.mem_filter

theorem mem_keys_filter {keep : κ → Bool} {map : SortedMap κ α} {key : κ} :
    key ∈ (map.filter fun key _ => keep key).keys ↔ key ∈ map.keys ∧ keep key = true := by
  rw [mem_keys, mem_keys, get?_filter]
  cases map.get? key <;> cases keep key <;> simp

/-! ### Maps with the same look-ups -/

variable [Std.IsLinearOrder κ]

/-- Two maps with the same look-ups are the same map. -/
theorem ext_get? {left right : SortedMap κ α} (h : ∀ key, left.get? key = right.get? key) :
    left = right := by
  have heq : left.entries = right.entries := by
    refine eq_of_ascending Prod.fst left.ascending right.ascending fun entry => ?_
    obtain ⟨key, value⟩ := entry
    rw [mem_entries, mem_entries, h]
  cases left
  cases right
  simpa using heq

/-- Two maps in which a default stands for what is missing, and is never a value itself, are the same when they agree up to the default. -/
theorem ext_getD {left right : SortedMap κ α} {default : α}
    (hleft : ∀ value ∈ left.values, value ≠ default)
    (hright : ∀ value ∈ right.values, value ≠ default)
    (h : ∀ key, (left.get? key).getD default = (right.get? key).getD default) : left = right := by
  apply ext_get?
  intro key
  have hkey := h key
  cases hone : left.get? key with
  | none =>
    cases hother : right.get? key with
    | none => rfl
    | some value =>
      rw [hone, hother] at hkey
      exact absurd hkey.symm (hright value (mem_values.2 ⟨key, hother⟩))
  | some value =>
    cases hother : right.get? key with
    | none =>
      rw [hone, hother] at hkey
      exact absurd hkey (hleft value (mem_values.2 ⟨key, hone⟩))
    | some other =>
      rw [hone, hother] at hkey
      exact congrArg some hkey

theorem eq_empty_of_isEmpty {map : SortedMap κ α} (h : map.isEmpty = true) : map = .empty := by
  apply ext_get?
  intro key
  rw [get?, List.isEmpty_iff.1 h]
  rfl

/-- The parts of two maps below a condition on keys are equal when the look-ups there are. -/
theorem filter_congr {left right : SortedMap κ α} {keep : κ → Bool}
    (h : ∀ key, keep key = true → left.get? key = right.get? key) :
    left.filter (fun key _ => keep key) = right.filter fun key _ => keep key := by
  apply ext_get?
  intro key
  rw [get?_filter, get?_filter]
  cases hkeep : keep key with
  | false => simp
  | true => rw [h key hkeep]

theorem mapValues_id (map : SortedMap κ α) : (map.mapValues fun _ value => value) = map := by
  apply ext_get?
  intro key
  rw [get?_mapValues fun value => value, Option.map_id']

theorem find?_reverse_entries {p : κ → Bool} {map : SortedMap κ α} {key : κ} {value : α} :
    (map.entries.reverse.find? fun entry => p entry.1) = some (key, value) ↔
      map.get? key = some value ∧ p key = true ∧ ∀ other ∈ map.keys, p other = true → other ≤ key := by
  constructor
  · intro h
    obtain ⟨hentry, hp, hle⟩ := greatest_of_find?_reverse h
    exact ⟨mem_entries.1 hentry, hp, hle⟩
  · intro ⟨hvalue, hp, hle⟩
    have hentry := mem_entries.2 hvalue
    have hsome : (map.entries.reverse.find? fun entry => p entry.1).isSome :=
      List.find?_isSome.2 ⟨_, List.mem_reverse.2 hentry, hp⟩
    obtain ⟨⟨found, held⟩, hfound⟩ := Option.isSome_iff_exists.1 hsome
    obtain ⟨hmem, hfits, hgreatest⟩ := greatest_of_find?_reverse hfound
    have hkey : found = key :=
      Std.le_antisymm (hle found (List.mem_map_of_mem hmem) hfits)
        (hgreatest key (List.mem_map_of_mem hentry) hp)
    rw [mem_entries, hkey, hvalue] at hmem
    rw [hfound, hkey, Option.some.inj hmem]

/-! ### Insertions -/

variable [DecidableLT κ]

theorem insert_ne_empty {map : SortedMap κ α} {key : κ} {value : α} :
    map.insert key value ≠ .empty := by
  intro h
  have hvalue := get?_insert_self map key value
  rw [h] at hvalue
  cases hvalue

theorem update_ne_empty {map : SortedMap κ α} {key : κ} {default : α} {f : α → α} :
    map.update key default f ≠ .empty := insert_ne_empty

/-- An update keeps what holds of all values, if the new value has it. -/
theorem forall_mem_values_update {p : α → Prop} {map : SortedMap κ α} {key : κ} {default : α}
    {f : α → α} (h : ∀ value ∈ map.values, p value) (hnew : p (f ((map.get? key).getD default))) :
    ∀ value ∈ (map.update key default f).values, p value := by
  intro value hvalue
  obtain ⟨other, hother⟩ := mem_values.1 hvalue
  rw [update, get?_insert] at hother
  split at hother
  · exact Option.some.inj hother ▸ hnew
  · exact h value (mem_values.2 ⟨other, hother⟩)

/-- Filing the entries of a map gives the map again. -/
theorem ofList_entries (map : SortedMap κ α) : ofList map.entries = map := by
  apply ext_get?
  intro key
  rw [get?_ofList, lookupEntry_reverse_entries]

/-- Filing two lists of pairs one after the other overwrites the entries of the first by those of the second. -/
theorem ofList_append (front back : List (κ × α)) :
    ofList (front ++ back) = (ofList front).insertAll (ofList back).entries := by
  apply ext_get?
  intro key
  rw [get?_insertAll, lookupEntry_reverse_entries, get?_ofList, get?_ofList, get?_ofList,
    List.reverse_append, lookupEntry_append]

theorem contains_ofList_iff {pairs : List (κ × α)} {key : κ} :
    (ofList pairs).contains key = true ↔ key ∈ pairs.map Prod.fst := by
  rw [contains, get?_ofList, lookupEntry_eq_find?, Option.isSome_map, List.find?_isSome]
  simp

theorem mem_of_get?_ofList {pairs : List (κ × α)} {key : κ} {value : α}
    (h : (ofList pairs).get? key = some value) : (key, value) ∈ pairs := by
  rw [get?_ofList] at h
  exact List.mem_reverse.1 (lookupEntry_eq_some h)

/-- When pairs with the same key have the same value, a map made of them has them all. -/
theorem get?_ofList_eq_some {pairs : List (κ × α)} {key : κ} {value : α}
    (hsame : ∀ one other, (key, one) ∈ pairs → (key, other) ∈ pairs → one = other) :
    (ofList pairs).get? key = some value ↔ (key, value) ∈ pairs := by
  refine ⟨mem_of_get?_ofList, fun h => ?_⟩
  have hkey : (ofList pairs).contains key = true :=
    contains_ofList_iff.2 (List.mem_map_of_mem (f := Prod.fst) h)
  obtain ⟨found, hfound⟩ := Option.isSome_iff_exists.1 hkey
  rw [hfound, hsame found value (mem_of_get?_ofList hfound) h]

end Order

end BenchReport.SortedMap

namespace BenchReport.SortedSet

variable {κ : Type}
variable [LE κ] [LT κ] [DecidableEq κ] [Std.IsLinearOrder κ] [Std.LawfulOrderLT κ]

/-- Two sets with the same members are the same set. -/
protected theorem ext {left right : SortedSet κ} (h : ∀ key, key ∈ left.keys ↔ key ∈ right.keys) :
    left = right := by
  apply SortedMap.ext_get?
  intro key
  have hkey := h key
  rw [SortedMap.mem_keys, SortedMap.mem_keys, Option.isSome_iff_exists,
    Option.isSome_iff_exists] at hkey
  cases hleft : left.get? key <;> cases hright : right.get? key <;> simp_all

variable [DecidableLT κ]

/-- Collecting the members of a set gives the set again. -/
theorem ofList_keys (set : SortedSet κ) : SortedSet.ofList set.keys = set := by
  rw [SortedSet.ofList, SortedMap.keys, List.map_map]
  exact (congrArg SortedMap.ofList (List.map_id' set.entries)).trans (SortedMap.ofList_entries set)

theorem mem_keys_ofList {members : List κ} {key : κ} :
    key ∈ (SortedSet.ofList members).keys ↔ key ∈ members := by
  rw [SortedMap.mem_keys_iff_contains, SortedSet.ofList, SortedMap.contains_ofList_iff,
    List.map_map]
  simp

end BenchReport.SortedSet

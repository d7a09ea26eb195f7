/-!
# Sorted maps

A finite map is its list of entries in strictly increasing key order. The order is part of the type, so two maps with the same lookups are the same value, and every listing of a map is already in the order in which reports print it.
-/

namespace BenchReport

/-- Entries in strictly increasing key order. -/
structure SortedMap (κ α : Type) [LT κ] where
  entries : List (κ × α)
  ascending : entries.Pairwise fun left right => left.1 < right.1

namespace SortedMap

variable {κ α β : Type}

/-! ### Entry lists -/

/-- Puts an entry at its place, over an entry with the same key if there is one. -/
def insertEntry [LT κ] [DecidableLT κ] (key : κ) (value : α) : List (κ × α) → List (κ × α)
  | [] => [(key, value)]
  | entry :: rest =>
    if key < entry.1 then (key, value) :: entry :: rest
    else if entry.1 < key then entry :: insertEntry key value rest
    else (key, value) :: rest

/-- The value of the first entry with the key. -/
def lookupEntry [DecidableEq κ] (key : κ) : List (κ × α) → Option α
  | [] => none
  | entry :: rest => if entry.1 = key then some entry.2 else lookupEntry key rest

theorem lookupEntry_map [DecidableEq κ] (key : κ) (f : α → β) (entries : List (κ × α)) :
    lookupEntry key (entries.map fun entry => (entry.1, f entry.2)) =
      (lookupEntry key entries).map f := by
  induction entries with
  | nil => rfl
  | cons entry rest ih =>
      simp only [List.map_cons, lookupEntry]
      split
      · rfl
      · exact ih

theorem lookupEntry_eq_none [DecidableEq κ] {key : κ} {entries : List (κ × α)}
    (h : ∀ entry ∈ entries, entry.1 ≠ key) : lookupEntry key entries = none := by
  induction entries with
  | nil => rfl
  | cons entry rest ih =>
      rw [lookupEntry, if_neg (h entry (List.mem_cons_self ..))]
      exact ih fun other hother => h other (List.mem_cons_of_mem entry hother)

theorem lookupEntry_append [DecidableEq κ] (key : κ) (front back : List (κ × α)) :
    lookupEntry key (front ++ back) = (lookupEntry key front).or (lookupEntry key back) := by
  induction front with
  | nil => rfl
  | cons entry rest ih =>
      simp only [List.cons_append, lookupEntry]
      split
      · rfl
      · exact ih

theorem mem_insertEntry [LT κ] [DecidableLT κ] {key : κ} {value : α} {entry : κ × α} {entries : List (κ × α)}
    (h : entry ∈ insertEntry key value entries) : entry = (key, value) ∨ entry ∈ entries := by
  induction entries with
  | nil => simpa [insertEntry] using h
  | cons head rest ih =>
      rw [insertEntry] at h
      split at h
      · simpa using h
      · split at h
        · rcases List.mem_cons.1 h with h | h
          · exact .inr (List.mem_cons.2 (.inl h))
          · exact (ih h).imp_right (List.mem_cons_of_mem head)
        · rcases List.mem_cons.1 h with h | h
          · exact .inl h
          · exact .inr (List.mem_cons_of_mem head h)

section Order

variable [LE κ] [LT κ] [Std.IsLinearOrder κ] [Std.LawfulOrderLT κ]

theorem eq_of_not_lt {left right : κ} (hleft : ¬left < right) (hright : ¬right < left) :
    left = right :=
  Std.le_antisymm (Std.not_lt.1 hright) (Std.not_lt.1 hleft)

variable [DecidableLT κ]

theorem insertEntry_ascending (key : κ) (value : α) {entries : List (κ × α)}
    (h : entries.Pairwise fun left right => left.1 < right.1) :
    (insertEntry key value entries).Pairwise fun left right => left.1 < right.1 := by
  induction entries with
  | nil => simp [insertEntry]
  | cons head rest ih =>
      have htail := List.pairwise_cons.1 h
      rw [insertEntry]
      split
      · rename_i hlt
        refine List.pairwise_cons.2 ⟨fun entry hentry => ?_, h⟩
        rcases List.mem_cons.1 hentry with rfl | hentry
        · exact hlt
        · exact Std.lt_trans hlt (htail.1 entry hentry)
      · split
        · rename_i hnot hgt
          refine List.pairwise_cons.2 ⟨fun entry hentry => ?_, ih htail.2⟩
          rcases mem_insertEntry hentry with rfl | hentry
          · exact hgt
          · exact htail.1 entry hentry
        · rename_i hnot hgt
          have heq := eq_of_not_lt hnot hgt
          refine List.pairwise_cons.2 ⟨fun entry hentry => ?_, htail.2⟩
          exact heq ▸ htail.1 entry hentry

theorem lookupEntry_insertEntry [DecidableEq κ] (key other : κ) (value : α)
    (entries : List (κ × α)) :
    lookupEntry other (insertEntry key value entries) =
      if key = other then some value else lookupEntry other entries := by
  induction entries with
  | nil => rfl
  | cons head rest ih =>
      rw [insertEntry]
      split
      · rfl
      · split
        · rename_i hnot hgt
          rw [lookupEntry, lookupEntry, ih]
          by_cases hhead : head.1 = other
          · have hne : key ≠ other := fun he => Std.lt_irrefl (hhead.trans he.symm ▸ hgt)
            simp [hhead, hne]
          · simp [hhead]
        · rename_i hnot hgt
          have heq := eq_of_not_lt hnot hgt
          simp only [lookupEntry, heq]
          split <;> rfl

end Order

/-! ### Maps -/

section Map

variable [LT κ]

def empty : SortedMap κ α := ⟨[], .nil⟩

instance : EmptyCollection (SortedMap κ α) := ⟨empty⟩

instance : Inhabited (SortedMap κ α) := ⟨empty⟩

instance [DecidableEq κ] [DecidableEq α] : DecidableEq (SortedMap κ α) := fun left right =>
  if h : left.entries = right.entries then
    isTrue (by cases left; cases right; simp_all)
  else isFalse fun he => h (he ▸ rfl)

def keys (map : SortedMap κ α) : List κ := map.entries.map Prod.fst

def values (map : SortedMap κ α) : List α := map.entries.map Prod.snd

def size (map : SortedMap κ α) : Nat := map.entries.length

def isEmpty (map : SortedMap κ α) : Bool := map.entries.isEmpty

def get? [DecidableEq κ] (map : SortedMap κ α) (key : κ) : Option α := lookupEntry key map.entries

def contains [DecidableEq κ] (map : SortedMap κ α) (key : κ) : Bool := (map.get? key).isSome

def filter (keep : κ → α → Bool) (map : SortedMap κ α) : SortedMap κ α where
  entries := map.entries.filter fun entry => keep entry.1 entry.2
  ascending := map.ascending.filter _

def mapValues (f : κ → α → β) (map : SortedMap κ α) : SortedMap κ β where
  entries := map.entries.map fun entry => (entry.1, f entry.1 entry.2)
  ascending := map.ascending.map _ fun _ _ h => h

end Map

section Order

variable [LE κ] [LT κ] [DecidableLT κ] [Std.IsLinearOrder κ] [Std.LawfulOrderLT κ]

def insert (map : SortedMap κ α) (key : κ) (value : α) : SortedMap κ α where
  entries := insertEntry key value map.entries
  ascending := insertEntry_ascending key value map.ascending

/-- Inserts the pairs from left to right, so of two pairs with one key the later stays. -/
def insertAll (map : SortedMap κ α) (pairs : List (κ × α)) : SortedMap κ α :=
  pairs.foldl (fun built pair => built.insert pair.1 pair.2) map

def ofList (pairs : List (κ × α)) : SortedMap κ α := empty.insertAll pairs

/-- Replaces the value at a key by a function of the value there, or of a default where there is none. -/
def update [DecidableEq κ] (map : SortedMap κ α) (key : κ) (default : α) (f : α → α) :
    SortedMap κ α :=
  map.insert key (f ((map.get? key).getD default))

end Order

/-! ### Lookups -/

section Lookup

variable [LT κ] [DecidableEq κ]

@[simp] theorem get?_empty (key : κ) : (empty : SortedMap κ α).get? key = none := rfl

variable [LE κ] [Std.LawfulOrderLT κ]

/-- Every key of a map is there once, so it does not matter from which end its entries are searched. -/
theorem lookupEntry_reverse_entries (map : SortedMap κ α) (key : κ) :
    lookupEntry key map.entries.reverse = map.get? key := by
  have search (entries : List (κ × α)) (h : entries.Pairwise fun left right => left.1 < right.1) :
      lookupEntry key entries.reverse = lookupEntry key entries := by
    induction entries with
    | nil => rfl
    | cons entry rest ih =>
        have htail := List.pairwise_cons.1 h
        rw [List.reverse_cons, lookupEntry_append, ih htail.2]
        simp only [lookupEntry]
        split
        · rename_i heq
          rw [lookupEntry_eq_none fun other hother he =>
            Std.lt_irrefl (heq.trans he.symm ▸ htail.1 other hother), Option.none_or]
        · exact Option.or_none
  exact search map.entries map.ascending

variable [DecidableLT κ] [Std.IsLinearOrder κ]

theorem get?_insert (map : SortedMap κ α) (key other : κ) (value : α) :
    (map.insert key value).get? other = if key = other then some value else map.get? other :=
  lookupEntry_insertEntry key other value map.entries

@[simp] theorem get?_insert_self (map : SortedMap κ α) (key : κ) (value : α) :
    (map.insert key value).get? key = some value := by
  rw [get?_insert, if_pos rfl]

theorem get?_insertAll (map : SortedMap κ α) (pairs : List (κ × α)) (key : κ) :
    (map.insertAll pairs).get? key = (lookupEntry key pairs.reverse).or (map.get? key) := by
  induction pairs generalizing map with
  | nil => rfl
  | cons pair rest ih =>
      have step : map.insertAll (pair :: rest) = (map.insert pair.1 pair.2).insertAll rest := rfl
      rw [step, ih, get?_insert, List.reverse_cons, lookupEntry_append, Option.or_assoc]
      congr 1
      simp only [lookupEntry]
      split <;> rfl

/-- Of pairs with one key the last counts. -/
theorem get?_ofList (pairs : List (κ × α)) (key : κ) :
    (ofList pairs).get? key = lookupEntry key pairs.reverse := by
  rw [ofList, get?_insertAll, get?_empty, Option.or_none]

end Lookup

end SortedMap

/-- A finite set is a map to the one value of the unit type. -/
abbrev SortedSet (κ : Type) [LT κ] := SortedMap κ Unit

namespace SortedSet

variable {κ : Type} [LE κ] [LT κ] [DecidableLT κ] [Std.IsLinearOrder κ] [Std.LawfulOrderLT κ]

def ofList (members : List κ) : SortedSet κ :=
  SortedMap.ofList (members.map fun member => (member, ()))

end SortedSet

end BenchReport

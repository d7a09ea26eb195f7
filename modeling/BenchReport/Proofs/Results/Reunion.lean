import BenchReport.Proofs.Results.Halves
import BenchReport.Source.RunLog

/-!
# The halves of a run make up the run

The head half of a run is told by the names alone: it has the entries under a single segment and those under a variant without the suffix. For the base half the suffix is taken off, and as long as no name has a fourth segment it can be put back: the name of a base entry tells its group, its variant and its parameter, so it comes from one name of the run only, the one with the suffix behind the variant. Under these names the entries of the base half fill up the head half to the whole run, none lost and none merged.
-/

namespace BenchReport

namespace Results

open SortedMap

variable {results : Results} {suffix : String}

/-! ### Names with the suffix put back -/

/-- The name in a run that a name in its base half comes from: the suffix stands behind the variant again. -/
def suffixedName (suffix name : String) : String :=
  NameParts.join (NameParts.ofName name).group ((NameParts.ofName name).variant ++ suffix)
    (NameParts.ofName name).parameter

/-- Whether a name has a group and a variant of its own and nothing behind the parameter, as the names in a base half have. -/
def IsBaseName (name : String) : Prop :=
  (NameParts.ofName name).lone = false ∧ NameParts.IsShort name

theorem IsBaseName.join_eq {name : String} (h : IsBaseName name) :
    NameParts.join (NameParts.ofName name).group (NameParts.ofName name).variant
      (NameParts.ofName name).parameter = name := by
  have hback := NameParts.toName_ofName h.2
  rw [NameParts.toName, h.1] at hback
  exact hback

theorem ofName_suffixedName (hslash : '/' ∉ suffix.toList) (name : String) :
    NameParts.ofName (suffixedName suffix name) =
      ⟨(NameParts.ofName name).group, (NameParts.ofName name).variant ++ suffix,
        (NameParts.ofName name).parameter, false⟩ := by
  have hfree := NameParts.slashFree_ofName name
  refine NameParts.ofName_join hfree.group ?_ hfree.parameter
  rw [String.toList_append, List.mem_append, not_or]
  exact ⟨hfree.variant, hslash⟩

/-- The suffix that was put back can be taken off. -/
theorem baseName?_suffixedName (hsuffix : suffix ≠ "") (hslash : '/' ∉ suffix.toList)
    {name : String} (h : IsBaseName name) :
    baseName? suffix (suffixedName suffix name) = some name := by
  rw [baseName?_eq_some, ofName_suffixedName hslash]
  exact ⟨hsuffix, rfl, _, rfl, h.join_eq⟩

/-- A suffix that was taken off can be put back, if there was nothing behind the parameter. -/
theorem eq_suffixedName_of_baseName? {name base : String} (hshort : NameParts.IsShort name)
    (h : baseName? suffix name = some base) :
    IsBaseName base ∧ '/' ∉ suffix.toList ∧ name = suffixedName suffix base := by
  obtain ⟨_, hlone, variant, hvariant, hbase⟩ := baseName?_eq_some.1 h
  have hfree := NameParts.slashFree_ofName name
  have hmarked := hfree.variant
  rw [hvariant, String.toList_append, List.mem_append, not_or] at hmarked
  have hof := NameParts.ofName_join hfree.group hmarked.1 hfree.parameter
  have hback := NameParts.isShort_join hfree.group hmarked.1 hfree.parameter
  rw [hbase] at hof hback
  refine ⟨⟨by rw [hof], hback⟩, hmarked.2, ?_⟩
  rw [suffixedName, hof, ← hvariant]
  exact (IsBaseName.join_eq ⟨hlone, hshort⟩).symm

/-- The entries of two halves under the names that they had in the run. -/
def reentered (suffix : String) (base head : Results) : List (String × Float) :=
  head.entries ++ base.entries.map fun entry => (suffixedName suffix entry.1, entry.2)

/-! ### The head half -/

theorem mem_headHalf (hsuffix : suffix ≠ "") {name : String} {value : Float} :
    (name, value) ∈ (results.headHalf suffix).entries ↔ (name, value) ∈ results.entries ∧
      ('/' ∉ name.toList ∨ ¬suffix.toList <:+ (variantOf name).toList) := by
  have hplain : baseName? suffix name = none ↔
      '/' ∉ name.toList ∨ ¬suffix.toList <:+ (variantOf name).toList := by
    rw [baseName?_eq_none, or_iff_right hsuffix]
  rw [← hplain, ← Option.isNone_iff_eq_none]
  exact List.mem_filter

/-- The names of a log have a variant of their own, so none in its head half ends in the suffix. -/
theorem not_suffix_of_headHalf_log (hsuffix : suffix ≠ "") {runs : List LoggedRun} {name : String}
    (h : name ∈ ((RunLog.resultsOf runs).headHalf suffix).keys) :
    ¬suffix.toList <:+ (variantOf name).toList := by
  obtain ⟨⟨_, value⟩, hentry, rfl⟩ := List.mem_map.1 h
  obtain ⟨hentry, hplain⟩ := (mem_headHalf hsuffix).1 hentry
  have hpair := mem_of_get?_ofList (mem_entries.1 hentry)
  obtain ⟨run, _, hrun⟩ := List.mem_map.1 hpair
  cases hrun
  exact hplain.resolve_left (by simp [LoggedRun.name])

/-! ### The base half -/

section Short

variable (hsuffix : suffix ≠ "") (hshort : ∀ name ∈ results.keys, NameParts.IsShort name)

include hsuffix hshort

theorem mem_basePairs {name : String} {value : Float} :
    ((name, value) ∈ results.entries.filterMap fun entry =>
        (baseName? suffix entry.1).map fun name => (name, entry.2)) ↔
      IsBaseName name ∧ '/' ∉ suffix.toList ∧
        results.get? (suffixedName suffix name) = some value := by
  rw [List.mem_filterMap]
  constructor
  · intro ⟨entry, hentry, hpair⟩
    obtain ⟨base, hbase, heq⟩ := Option.map_eq_some_iff.1 hpair
    cases heq
    obtain ⟨hname, hslash, hback⟩ :=
      eq_suffixedName_of_baseName? (hshort _ (List.mem_map_of_mem hentry)) hbase
    rw [← hback]
    exact ⟨hname, hslash, mem_entries.1 hentry⟩
  · intro ⟨hname, hslash, hvalue⟩
    refine ⟨_, mem_entries.2 hvalue, ?_⟩
    rw [baseName?_suffixedName hsuffix hslash hname, Option.map_some]

/-- An entry of the base half is the one entry of the run with the suffix behind the variant. -/
theorem get?_baseHalf_eq_some {name : String} {value : Float} :
    (results.baseHalf suffix).get? name = some value ↔
      IsBaseName name ∧ '/' ∉ suffix.toList ∧
        results.get? (suffixedName suffix name) = some value := by
  rw [← mem_basePairs hsuffix hshort]
  refine get?_ofList_eq_some fun one other hone hother => ?_
  obtain ⟨_, _, hone⟩ := (mem_basePairs hsuffix hshort).1 hone
  obtain ⟨_, _, hother⟩ := (mem_basePairs hsuffix hshort).1 hother
  rw [hone] at hother
  exact Option.some.inj hother

/-! ### Both halves together -/

theorem mem_reentered {name : String} {value : Float} :
    (name, value) ∈ reentered suffix (results.baseHalf suffix) (results.headHalf suffix) ↔
      (name, value) ∈ results.entries := by
  rw [reentered, List.mem_append, List.mem_map]
  constructor
  · intro h
    obtain h | ⟨entry, hentry, heq⟩ := h
    · exact (List.mem_filter.1 h).1
    · cases heq
      rw [mem_entries]
      exact ((get?_baseHalf_eq_some hsuffix hshort).1 (mem_entries.1 hentry)).2.2
  · intro h
    cases hbase : baseName? suffix name with
    | none => exact .inl (List.mem_filter.2 ⟨h, Option.isNone_iff_eq_none.2 hbase⟩)
    | some base =>
      obtain ⟨hname, hslash, hback⟩ :=
        eq_suffixedName_of_baseName? (hshort name (List.mem_map_of_mem h)) hbase
      refine .inr ⟨(base, value), ?_, by rw [← hback]⟩
      rw [mem_entries, get?_baseHalf_eq_some hsuffix hshort, ← hback]
      exact ⟨hname, hslash, mem_entries.1 h⟩

/-- No two entries of the halves come to stand under one name. -/
theorem nodup_reentered :
    (reentered suffix (results.baseHalf suffix) (results.headHalf suffix)).Nodup := by
  have hbase (entry : String × Float) (hentry : entry ∈ (results.baseHalf suffix).entries) :
      baseName? suffix (suffixedName suffix entry.1) = some entry.1 := by
    obtain ⟨name, value⟩ := entry
    obtain ⟨hname, hslash, _⟩ := (get?_baseHalf_eq_some hsuffix hshort).1 (mem_entries.1 hentry)
    exact baseName?_suffixedName hsuffix hslash hname
  refine List.nodup_append.2 ⟨nodup_of_ascending Prod.fst (headHalf results suffix).ascending,
    (nodup_of_ascending Prod.fst (baseHalf results suffix).ascending).map_on ?_, ?_⟩
  · intro one hone other hother heq
    rw [Prod.mk.injEq] at heq
    have hname := hbase one hone
    rw [heq.1, hbase other hother] at hname
    exact Prod.ext (Option.some.inj hname).symm heq.2
  · intro entry hentry moved hmoved heq
    obtain ⟨other, hother, rfl⟩ := List.mem_map.1 hmoved
    have hhead : (baseName? suffix entry.1).isNone = true := (List.mem_filter.1 hentry).2
    rw [heq, hbase other hother] at hhead
    cases hhead

theorem reentered_perm :
    (reentered suffix (results.baseHalf suffix) (results.headHalf suffix)).Perm results.entries :=
  (List.perm_ext_iff_of_nodup (nodup_reentered hsuffix hshort)
    (nodup_of_ascending Prod.fst results.ascending)).2 fun _ => mem_reentered hsuffix hshort

theorem size_baseHalf_add_size_headHalf :
    (results.baseHalf suffix).size + (results.headHalf suffix).size = results.size := by
  have hlength := (reentered_perm hsuffix hshort).length_eq
  rw [reentered, List.length_append, List.length_map] at hlength
  rw [size, size, size, Nat.add_comm]
  exact hlength

theorem ofList_reentered :
    ofList (reentered suffix (results.baseHalf suffix) (results.headHalf suffix)) = results := by
  apply ext_get?
  intro name
  apply Option.ext
  intro value
  rw [get?_ofList_eq_some, mem_reentered hsuffix hshort, mem_entries]
  intro one other hone hother
  rw [mem_reentered hsuffix hshort, mem_entries] at hone hother
  exact Option.some.inj (hone.symm.trans hother)

end Short

/-! ### Whole runs -/

/-- Two halves that make up a run: each of its entries is in one of them, under its own name in the head half or, in the base half, under the name that the suffix is taken off. -/
structure Reunites (suffix : String) (base head results : Results) : Prop where
  size : base.size + head.size = results.size
  /-- An entry of the base half is the entry of the run with the suffix behind the variant. -/
  held : ∀ name ∈ base.keys, ∀ value,
    base.get? name = some value ↔ results.get? (suffixedName suffix name) = some value
  /-- Whatever the run has with the suffix behind the variant, the base half has without it. No variant ends in a suffix with a slash. -/
  found : ∀ name value, base.get? name = some value ↔ IsBaseName name ∧ '/' ∉ suffix.toList ∧
    results.get? (suffixedName suffix name) = some value
  perm : (reentered suffix base head).Perm results.entries
  union : SortedMap.ofList (reentered suffix base head) = results

theorem reunites_of_short (hsuffix : suffix ≠ "")
    (hshort : ∀ name ∈ results.keys, NameParts.IsShort name) :
    Reunites suffix (results.baseHalf suffix) (results.headHalf suffix) results where
  size := size_baseHalf_add_size_headHalf hsuffix hshort
  held name hname value := by
    obtain ⟨_, hheld⟩ := exists_of_mem_keys hname
    obtain ⟨hbase, hslash, _⟩ := (get?_baseHalf_eq_some hsuffix hshort).1 hheld
    rw [get?_baseHalf_eq_some hsuffix hshort]
    simp [hbase, hslash]
  found _ _ := get?_baseHalf_eq_some hsuffix hshort
  perm := reentered_perm hsuffix hshort
  union := ofList_reentered hsuffix hshort

/-- A suffix tells the base run from the head run by the names alone, and where no name has a fourth segment it can be put back: the two halves make up the run. Without a suffix there is no base run. -/
theorem halves_reunite (results : Results) (suffix : String) :
    (suffix ≠ "" →
      (∀ name value, (name, value) ∈ (results.headHalf suffix).entries ↔
        (name, value) ∈ results.entries ∧
          ('/' ∉ name.toList ∨ ¬suffix.toList <:+ (variantOf name).toList)) ∧
      (∀ runs : List LoggedRun, ∀ name ∈ ((RunLog.resultsOf runs).headHalf suffix).keys,
        ¬suffix.toList <:+ (variantOf name).toList) ∧
      ((∀ name ∈ results.keys, NameParts.IsShort name) →
        Reunites suffix (results.baseHalf suffix) (results.headHalf suffix) results)) ∧
    results.baseHalf "" = .empty ∧ results.headHalf "" = results := by
  refine ⟨fun hsuffix => ⟨fun _ _ => mem_headHalf hsuffix,
    fun _ _ => not_suffix_of_headHalf_log hsuffix, reunites_of_short hsuffix⟩, ?_⟩
  exact halves_of_no_base fun name _ => baseName?_eq_none.2 (.inl rfl)

/-- A suffix twice on a variant, a variant that is the suffix, an empty parameter and a suffix on a single segment. -/
def suffixedRun : Results :=
  .ofList [("/_base", 1), ("g/_base/8", 2), ("g/x", 3), ("g/x_base", 4), ("g/x_base/", 5),
    ("g/x_base_base", 6), ("top_base", 7)]

theorem halves_reunite_suffixedRun :
    Reunites "_base" (suffixedRun.baseHalf "_base") (suffixedRun.headHalf "_base") suffixedRun ∧
    (suffixedRun.baseHalf "_base").keys = ["/", "g//8", "g/x", "g/x/", "g/x_base"] ∧
    (suffixedRun.headHalf "_base").keys = ["g/x", "top_base"] :=
  ⟨((halves_reunite suffixedRun "_base").1 (by decide)).2.2 (by decide +kernel),
    by decide +kernel, by decide +kernel⟩

end Results

end BenchReport

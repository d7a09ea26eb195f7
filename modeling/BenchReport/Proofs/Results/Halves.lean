import BenchReport.Proofs.Name
import BenchReport.Proofs.SortedMap
import BenchReport.Results.Basic

/-!
# The two halves of one run

Under a name of two segments, the base half of a run holds what the run has under the variant with the suffix, and the head half what it has under the variant itself, unless that ends in the suffix too. No other name of the run comes to stand there: a name with a parameter keeps its third segment in either half, and stripping a suffix twice takes a name that carries it twice.
-/

namespace BenchReport.Results

open SortedMap

variable {suffix name base : String}

/-! ### Names of a base run -/

theorem baseName?_eq_some : baseName? suffix name = some base ↔
    suffix ≠ "" ∧ (NameParts.ofName name).lone = false ∧
      ∃ variant, (NameParts.ofName name).variant = variant ++ suffix ∧
        NameParts.join (NameParts.ofName name).group variant (NameParts.ofName name).parameter =
          base := by
  rw [baseName?]
  split
  · rename_i hplain
    refine ⟨nofun, fun h => ?_⟩
    simp [h.1, h.2.1] at hplain
  · rename_i hmarked
    rw [not_or, Bool.not_eq_true] at hmarked
    simp only [Option.map_eq_some_iff, Text.stripEnding?_eq_some]
    simp [hmarked]

theorem baseName?_eq_none : baseName? suffix name = none ↔
    suffix = "" ∨ '/' ∉ name.toList ∨ ¬suffix.toList <:+ (variantOf name).toList := by
  rw [baseName?, ← NameParts.lone_iff, variantOf]
  split
  · rename_i hplain
    exact ⟨fun _ => hplain.imp_right .inl, fun _ => rfl⟩
  · rename_i hmarked
    rw [not_or] at hmarked
    rw [Option.map_eq_none_iff, Text.stripEnding?]
    simp [hmarked]

/-! ### Names of two segments -/

theorem baseName?_eq_pair {group variant : String} (hsuffix : suffix ≠ "")
    (hgroup : '/' ∉ group.toList) (hmarked : '/' ∉ (variant ++ suffix).toList) :
    baseName? suffix name = some (group ++ "/" ++ variant) ↔
      name = group ++ "/" ++ (variant ++ suffix) := by
  have hvariant : '/' ∉ variant.toList := fun h => hmarked (by simp [h])
  rw [baseName?_eq_some]
  constructor
  · intro ⟨_, hlone, front, hfront, hjoin⟩
    cases hparameter : (NameParts.ofName name).parameter with
    | none =>
      rw [hparameter] at hjoin
      obtain ⟨hfirst, hsecond⟩ := (NameParts.pair_inj hgroup hvariant).1 hjoin
      rw [NameParts.eq_pair_of_parameter hlone hparameter, hfirst, hfront, hsecond]
    | some parameter =>
      rw [hparameter] at hjoin
      -- A third segment would put a slash into the group.
      obtain ⟨hfirst, _⟩ := (NameParts.pair_inj hgroup hvariant).1 hjoin
      rw [← hfirst] at hgroup
      simp at hgroup
  · rintro rfl
    rw [NameParts.ofName_pair hgroup hmarked]
    exact ⟨hsuffix, rfl, variant, rfl, rfl⟩

theorem get?_baseHalf_pair {results : Results} {group variant : String}
    (hsuffix : suffix ≠ "") (hgroup : '/' ∉ group.toList)
    (hmarked : '/' ∉ (variant ++ suffix).toList) :
    (results.baseHalf suffix).get? (group ++ "/" ++ variant) =
      results.get? (group ++ "/" ++ (variant ++ suffix)) := by
  rw [baseHalf, get?_ofList, ← List.filterMap_reverse,
    lookupEntry_filterMap_rename fun name => baseName?_eq_pair hsuffix hgroup hmarked,
    lookupEntry_reverse_entries]

theorem get?_headHalf_pair {results : Results} {group variant : String}
    (hgroup : '/' ∉ group.toList) (hvariant : '/' ∉ variant.toList)
    (hplain : ¬suffix.toList <:+ variant.toList) :
    (results.headHalf suffix).get? (group ++ "/" ++ variant) =
      results.get? (group ++ "/" ++ variant) := by
  have hhead : baseName? suffix (group ++ "/" ++ variant) = none := by
    rw [baseName?_eq_none, variantOf, NameParts.ofName_pair hgroup hvariant]
    exact .inr (.inr hplain)
  rw [headHalf, get?_filter, hhead]
  cases results.get? (group ++ "/" ++ variant) <;> rfl

/-! ### Runs without a base -/

/-- Without a name of a base run, a run is all head. -/
theorem halves_of_no_base {results : Results}
    (h : ∀ name ∈ results.keys, baseName? suffix name = none) :
    results.baseHalf suffix = .empty ∧ results.headHalf suffix = results := by
  have hentries (entry) (hentry : entry ∈ results.entries) : baseName? suffix entry.1 = none :=
    h entry.1 (List.mem_map_of_mem hentry)
  constructor
  · rw [baseHalf, List.filterMap_eq_nil_iff.2 fun entry hentry => by rw [hentries entry hentry]; rfl]
    rfl
  · apply ext_get?
    intro name
    rw [headHalf, get?_filter]
    cases hvalue : results.get? name with
    | none => rfl
    | some value =>
        rw [Option.filter_some, hentries _ (mem_entries.2 hvalue)]
        rfl

end BenchReport.Results

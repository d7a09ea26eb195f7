import BenchReport.Proofs.Json.RoundTrip
import BenchReport.Proofs.SortedMap

/-!
# What documents are read

Every document that is read has a text again: its integers have at most sixty-four bits, its doubles are finite, and its containers are nested no deeper than the reader went. So whatever a document says is a number is a finite one.
-/

namespace BenchReport.Json

open NumberText

/-! ### Numbers -/

theorem fits_of_numberOf? {negative : Bool} {whole fraction : List Char} {exponent : Option Int}
    {value : Number} (h : numberOf? negative whole fraction exponent = some value) : value.Fits := by
  rw [numberOf?] at h
  split at h
  · rename_i hsmall
    cases h
    simp only [Bool.and_eq_true, decide_eq_true_eq] at hsmall
    exact ⟨by omega, by omega⟩
  · split at h
    · rename_i hsmall
      cases h
      simp only [Bool.and_eq_true, decide_eq_true_eq] at hsmall
      exact ⟨by omega, by omega⟩
    · simp only at h
      split at h
      · rename_i hfinite
        cases h
        rw [Number.Fits, Binary64.magnitude_ofMagnitude negative hfinite.le]
        exact hfinite
      · cases h

theorem fits_of_readNumber? {chars rest : List Char} {value : Number}
    (h : readNumber? chars = some (value, rest)) : value.Fits := by
  rw [readNumber?] at h
  obtain ⟨⟨whole, _⟩, _, h⟩ := Option.bind_eq_some_iff.1 h
  obtain ⟨⟨fraction, _⟩, _, h⟩ := Option.bind_eq_some_iff.1 h
  obtain ⟨⟨exponent, _⟩, _, h⟩ := Option.bind_eq_some_iff.1 h
  obtain ⟨number, hnumber, h⟩ := Option.bind_eq_some_iff.1 h
  cases h
  exact fits_of_numberOf? hnumber

/-- The double of a number that fits is finite: integers of sixty-four bits are far from the end of the range. -/
theorem Number.Fits.isFinite {value : Number} (h : value.Fits) : value.toFloat.isFinite = true := by
  rw [Binary64.isFinite_iff]
  cases value with
  | integer value =>
      have hsize : (value.natAbs : Rat) < (2 : Rat) ^ (1023 : Int) := by
        have hbits : value.natAbs ≤ 2 ^ 64 := by
          have := h.1
          have := h.2
          omega
        calc (value.natAbs : Rat) ≤ ((2 ^ 64 : Nat) : Rat) := by exact_mod_cast hbits
          _ = (2 : Rat) ^ (64 : Int) := by norm_num
          _ < (2 : Rat) ^ (1023 : Int) := zpow_lt_zpow_right₀ one_lt_two (by decide)
      have hfinite := Binary64.nearestMagnitude_lt hsize (Nat.cast_nonneg _)
      rw [toFloat, Binary64.ofInt, Binary64.nearest, Binary64.magnitude_ofMagnitude _ hfinite.le]
      exact hfinite
  | real value => exact h

/-! ### Containers -/

section Items

variable {α : Type} {close : Char} {read : ItemReader α} {holds : α → Prop}
  (hread : ∀ {chars item rest}, read chars = some (item, rest) → holds item)

include hread

theorem forall_of_readItems? {fuel : Nat} {chars rest : List Char} {items : List α}
    (h : readItems? close read fuel chars = some (items, rest)) : ∀ item ∈ items, holds item := by
  induction fuel generalizing chars rest items with
  | zero => cases h
  | succ fuel ih =>
      rw [readItems?] at h
      obtain ⟨⟨first, afterFirst⟩, hfirst, h⟩ := Option.bind_eq_some_iff.1 h
      simp only at h
      split at h
      · cases h
      · split at h
        · cases h
          exact List.forall_mem_singleton.2 (hread hfirst)
        · split at h
          · obtain ⟨⟨others, _⟩, hothers, h⟩ := Option.bind_eq_some_iff.1 h
            cases h
            exact List.forall_mem_cons.2 ⟨hread hfirst, ih hothers⟩
          · cases h

theorem forall_of_readContainer? {chars rest : List Char} {items : List α}
    (h : readContainer? close read chars = some (items, rest)) : ∀ item ∈ items, holds item := by
  rw [readContainer?] at h
  split at h
  · cases h
  · split at h
    · cases h
      exact List.forall_mem_nil _
    · exact forall_of_readItems? hread h

end Items

/-! ### Values -/

theorem fits_number (depth : Nat) (value : Number) : (number value).Fits depth ↔ value.Fits := by
  cases depth <;> exact Iff.rfl

theorem fits_of_readWord? {word : String} {value document : Json} {chars rest : List Char}
    {depth : Nat} (hvalue : value.Fits depth)
    (h : readWord? word value chars = some (document, rest)) : document.Fits depth := by
  rw [readWord?] at h
  split at h
  · cases h
    exact hvalue
  · cases h

theorem fits_of_readScalar? {chars rest : List Char} {document : Json} (depth : Nat)
    (h : readScalar? chars = some (document, rest)) : document.Fits depth := by
  rw [readScalar?.eq_def] at h
  split at h
  · obtain ⟨read, _, hdocument⟩ := Option.map_eq_some_iff.1 h
    cases hdocument
    cases depth <;> exact trivial
  · exact fits_of_readWord? (by cases depth <;> exact trivial) h
  · exact fits_of_readWord? (by cases depth <;> exact trivial) h
  · exact fits_of_readWord? (by cases depth <;> exact trivial) h
  · obtain ⟨read, hread, hdocument⟩ := Option.map_eq_some_iff.1 h
    cases hdocument
    exact (fits_number depth _).2 (fits_of_readNumber? hread)

theorem fits_of_readField? {value : ItemReader Json} {depth : Nat}
    (hvalue : ∀ {chars document rest}, value chars = some (document, rest) → document.Fits depth)
    {chars rest : List Char} {field : String × Json}
    (h : readField? value chars = some (field, rest)) : field.2.Fits depth := by
  rw [readField?] at h
  split at h
  · obtain ⟨⟨name, afterName⟩, _, h⟩ := Option.bind_eq_some_iff.1 h
    simp only at h
    split at h
    · obtain ⟨⟨document, _⟩, hread, h⟩ := Option.bind_eq_some_iff.1 h
      cases h
      exact hvalue hread
    · cases h
  · cases h

theorem fits_of_readValue? {depth : Nat} {chars rest : List Char} {document : Json}
    (h : readValue? depth chars = some (document, rest)) : document.Fits depth := by
  induction depth generalizing chars rest document with
  | zero =>
      rw [readValue?] at h
      split at h
      · cases h
      · cases h
      · exact fits_of_readScalar? 0 h
  | succ depth ih =>
      rw [readValue?] at h
      split at h
      · obtain ⟨read, hread, hdocument⟩ := Option.map_eq_some_iff.1 h
        cases hdocument
        exact forall_of_readContainer? (fun hitem => ih hitem) hread
      · obtain ⟨read, hread, hdocument⟩ := Option.map_eq_some_iff.1 h
        cases hdocument
        exact forall_of_readContainer?
          (fun hfield => fits_of_readField? (fun hvalue => ih hvalue) hfield) hread
      · exact fits_of_readScalar? (depth + 1) h

theorem fits_of_read? {text : String} {document : Json} (h : read? text = some document) :
    document.Fits depthLimit := by
  rw [read?] at h
  split at h
  · rename_i hread
    split at h
    · cases h
      exact fits_of_readValue? hread
    · cases h
  · cases h

/-! ### What is inside -/

theorem Fits.field? {depth : Nat} {document value : Json} (hfits : document.Fits depth)
    {name : String} (h : document.field? name = some value) : ∃ inner, value.Fits inner := by
  cases document with
  | object fields =>
      rw [Json.field?] at h
      have hmem := SortedMap.lookupEntry_eq_some h
      cases depth with
      | zero => exact hfits.elim
      | succ depth => exact ⟨depth, hfits (name, value) (List.mem_reverse.1 hmem)⟩
  | _ => cases h

theorem Fits.isFinite {depth : Nat} {document : Json} (hfits : document.Fits depth) {x : Float}
    (h : document.float? = some x) : x.isFinite = true := by
  cases document with
  | number value =>
      cases h
      exact ((fits_number depth value).1 hfits).isFinite
  | _ => cases h

end BenchReport.Json

import BenchReport.Proofs.Delta.Partition
import BenchReport.Proofs.Number.Order
import Mathlib.Data.List.Forall2

/-!
# Raising the threshold

A change that is beyond the higher of two thresholds is beyond the lower one, on the same side. So the verdict on a pair of values at the higher threshold is the one at the lower threshold or none at all, and two comparisons of the same runs that differ in the threshold list the same deltas in the same order, except that some findings of the one are unchanged in the other. The asymmetry of the two questions that a verdict asks, improvements first, does not matter as long as the lower threshold is not below zero: then no change is beyond it on both sides.
-/

namespace BenchReport

open SortedMap

/-! ### Verdicts -/

/-- At the higher threshold there is no finding, or the same as at the lower one. -/
theorem Verdict.ofValues_of_le {lower higher : Float} (hzero : 0 ≤ lower) (hle : lower ≤ higher)
    (base head : Float) :
    ofValues base head higher = .unchanged ∨
      ofValues base head higher = ofValues base head lower := by
  unfold ofValues
  by_cases hbase : (base == 0) = true
  · simp [hbase]
  · simp only [hbase, Bool.false_eq_true, if_false]
    by_cases himproved : relativeChange base head < -higher
    · right
      rw [if_pos himproved, if_pos (Binary64.lt_neg_of_le hle himproved)]
    · by_cases hregressed : higher < relativeChange base head
      · have hlower := Binary64.lt_of_le_of_lt hle hregressed
        have hnot := Binary64.not_lt_neg (Binary64.not_lt_of_le hzero) hlower
        right
        rw [if_neg himproved, if_pos hregressed, if_neg hnot, if_pos hlower]
      · left
        rw [if_neg himproved, if_neg hregressed]

namespace Delta

/-! ### Deltas -/

/-- What a higher threshold may make of a delta: it stays, or its finding is gone. -/
inductive Calms : Delta → Delta → Prop
  | same (delta : Delta) : Calms delta delta
  | calmed (verdict : Verdict) (name : String) (base head change : Float) :
      Calms (paired verdict name base head change) (paired .unchanged name base head change)

theorem calms_ofValues? {lower higher : Float} (hzero : 0 ≤ lower) (hle : lower ≤ higher)
    (name : String) (base head : Option Float) :
    Option.Rel Calms (ofValues? lower name base head) (ofValues? higher name base head) := by
  match base, head with
  | none, none => exact .none
  | none, some _ => exact .some (.same _)
  | some _, none => exact .some (.same _)
  | some base, some head =>
    refine .some ?_
    obtain hcalm | hsame := Verdict.ofValues_of_le hzero hle base head
    · rw [hcalm]
      exact .calmed _ name base head _
    · rw [hsame]
      exact .same _

variable {earlier later : Delta}

theorem Calms.name_eq (h : Calms earlier later) : later.name = earlier.name := by
  cases h <;> rfl

/-- A finding at the higher threshold is one at the lower threshold. -/
theorem Calms.isJudged (h : Calms earlier later) {verdict : Verdict} (hfinding : verdict ≠ .unchanged)
    (hlater : later.isJudged verdict = true) : earlier.isJudged verdict = true := by
  cases h with
  | same => exact hlater
  | calmed =>
      simp only [Delta.isJudged, decide_eq_true_eq] at hlater
      exact absurd hlater.symm hfinding

theorem Calms.isUnchanged (h : Calms earlier later)
    (hearlier : earlier.isJudged .unchanged = true) : later.isJudged .unchanged = true := by
  cases h with
  | same => exact hearlier
  | calmed => rfl

/-! ### Lists of deltas -/

/-- What holds of every member of one list for a member of the other makes it count there. -/
theorem countP_le_of_forall₂ {α : Type} {related : α → α → Prop} {left right : List α}
    (h : List.Forall₂ related left right) {p q : α → Bool}
    (hpq : ∀ a b, related a b → p a = true → q b = true) : left.countP p ≤ right.countP q := by
  induction h with
  | nil => exact Nat.le_refl 0
  | @cons a b left right hab _ ih =>
      have hhead := hpq a b hab
      rw [List.countP_cons, List.countP_cons]
      by_cases ha : p a = true
      · rw [if_pos ha, if_pos (hhead ha)]
        omega
      · rw [if_neg ha]
        omega

/-- What the deltas at a lower threshold and those at a higher one owe each other: the same names in the same order, the same added and removed names and the same values under the others; only findings that are gone tell them apart, whatever variants are counted. -/
structure Thins (lower higher : List Delta) : Prop where
  pointwise : List.Forall₂ Calms lower higher
  names : higher.map name = lower.map name
  added : ∀ name head, added name head ∈ higher ↔ added name head ∈ lower
  removed : ∀ name base, removed name base ∈ higher ↔ removed name base ∈ lower
  paired : ∀ name base head change,
    (∃ verdict, paired verdict name base head change ∈ higher) ↔
      ∃ verdict, paired verdict name base head change ∈ lower
  regressed : ∀ name base head change,
    .paired .regressed name base head change ∈ higher →
      .paired .regressed name base head change ∈ lower
  improved : ∀ name base head change,
    .paired .improved name base head change ∈ higher →
      .paired .improved name base head change ∈ lower
  steady : ∀ name,
    ((∃ base head change, .paired .improved name base head change ∈ lower) →
      ¬∃ base head change, .paired .regressed name base head change ∈ higher) ∧
    ((∃ base head change, .paired .regressed name base head change ∈ lower) →
      ¬∃ base head change, .paired .improved name base head change ∈ higher)
  counts : ∀ wanted,
    (Tally.ofDeltas higher wanted).improved ≤ (Tally.ofDeltas lower wanted).improved ∧
    (Tally.ofDeltas higher wanted).regressed ≤ (Tally.ofDeltas lower wanted).regressed ∧
    (Tally.ofDeltas lower wanted).unchanged ≤ (Tally.ofDeltas higher wanted).unchanged ∧
    ((Tally.ofDeltas lower wanted).anyRegressed = false →
      (Tally.ofDeltas higher wanted).anyRegressed = false)

section Counts

variable {lower higher : List Delta} (h : List.Forall₂ Calms lower higher) (wanted : String → Bool)

include h

theorem countP_finding_le {verdict : Verdict} (hfinding : verdict ≠ .unchanged) :
    (higher.filter fun delta => wanted (Results.variantOf delta.name)).countP (isJudged verdict) ≤
      (lower.filter fun delta => wanted (Results.variantOf delta.name)).countP
        (isJudged verdict) := by
  rw [List.countP_filter, List.countP_filter]
  refine countP_le_of_forall₂ h.flip fun later earlier hcalms hlater => ?_
  rw [Bool.and_eq_true] at hlater ⊢
  rw [← hcalms.name_eq]
  exact ⟨hcalms.isJudged hfinding hlater.1, hlater.2⟩

theorem countP_unchanged_le :
    (lower.filter fun delta => wanted (Results.variantOf delta.name)).countP
        (isJudged .unchanged) ≤
      (higher.filter fun delta => wanted (Results.variantOf delta.name)).countP
        (isJudged .unchanged) := by
  rw [List.countP_filter, List.countP_filter]
  refine countP_le_of_forall₂ h fun earlier later hcalms hearlier => ?_
  rw [Bool.and_eq_true] at hearlier ⊢
  rw [hcalms.name_eq]
  exact ⟨hcalms.isUnchanged hearlier.1, hearlier.2⟩

theorem tally_thins :
    (Tally.ofDeltas higher wanted).improved ≤ (Tally.ofDeltas lower wanted).improved ∧
      (Tally.ofDeltas higher wanted).regressed ≤ (Tally.ofDeltas lower wanted).regressed ∧
      (Tally.ofDeltas lower wanted).unchanged ≤ (Tally.ofDeltas higher wanted).unchanged ∧
      ((Tally.ofDeltas lower wanted).anyRegressed = false →
        (Tally.ofDeltas higher wanted).anyRegressed = false) := by
  obtain ⟨himproved, hregressed, hunchanged⟩ := Results.tally_judged higher wanted
  obtain ⟨himproved', hregressed', hunchanged'⟩ := Results.tally_judged lower wanted
  have hfewer : (Tally.ofDeltas higher wanted).regressed ≤
      (Tally.ofDeltas lower wanted).regressed := by
    rw [hregressed, hregressed']
    exact countP_finding_le h wanted (by decide)
  refine ⟨?_, hfewer, ?_, fun hnone => ?_⟩
  · rw [himproved, himproved']
    exact countP_finding_le h wanted (by decide)
  · rw [hunchanged, hunchanged']
    exact countP_unchanged_le h wanted
  · rw [Tally.anyRegressed, decide_eq_false_iff_not] at hnone ⊢
    omega

end Counts

/-- A name is judged once. -/
theorem Accounts.verdict_unique {base head : Results} {threshold : Float} {deltas : List Delta}
    (h : Accounts base head threshold deltas) {one other : Verdict} {name : String}
    {before before' after after' change change' : Float}
    (hone : .paired one name before after change ∈ deltas)
    (hother : .paired other name before' after' change' ∈ deltas) : one = other := by
  obtain ⟨hbefore, hafter, hone, _⟩ := (h.paired _ _ _ _ _).1 hone
  obtain ⟨hbefore', hafter', hother, _⟩ := (h.paired _ _ _ _ _).1 hother
  rw [hbefore] at hbefore'
  rw [hafter] at hafter'
  cases hbefore'
  cases hafter'
  rw [hone, hother]

end Delta

namespace Results

section Thresholds

variable (base head : Results) {lower higher : Float} (hzero : 0 ≤ lower) (hle : lower ≤ higher)

include hzero hle

theorem deltas_calm :
    List.Forall₂ Delta.Calms (base.deltas head lower) (base.deltas head higher) := by
  refine List.rel_filterMap (R := Eq) ?_ (List.forall₂_same.2 fun _ _ => rfl)
  rintro name _ rfl
  exact Delta.calms_ofValues? hzero hle name _ _

theorem mem_deltas_of_finding {verdict : Verdict} (hfinding : verdict ≠ .unchanged) {name : String}
    {before after change : Float}
    (h : .paired verdict name before after change ∈ base.deltas head higher) :
    .paired verdict name before after change ∈ base.deltas head lower := by
  obtain ⟨hbefore, hafter, hverdict, hchange⟩ := ((deltas_accounts base head higher).paired ..).1 h
  refine ((deltas_accounts base head lower).paired ..).2 ⟨hbefore, hafter, ?_, hchange⟩
  obtain hcalm | hsame := Verdict.ofValues_of_le hzero hle before after
  · exact absurd (hverdict.trans hcalm) hfinding
  · rw [hverdict, hsame]

/-- Raising the threshold only removes findings. -/
theorem deltas_thin : Delta.Thins (base.deltas head lower) (base.deltas head higher) where
  pointwise := deltas_calm base head hzero hle
  names := by rw [map_name_deltas, map_name_deltas]
  added name value := by
    rw [(deltas_accounts base head higher).added, (deltas_accounts base head lower).added]
  removed name value := by
    rw [(deltas_accounts base head higher).removed, (deltas_accounts base head lower).removed]
  paired name before after change := by
    simp only [(deltas_accounts base head higher).paired, (deltas_accounts base head lower).paired]
    constructor
    · intro ⟨_, hbefore, hafter, _, hchange⟩
      exact ⟨_, hbefore, hafter, rfl, hchange⟩
    · intro ⟨_, hbefore, hafter, _, hchange⟩
      exact ⟨_, hbefore, hafter, rfl, hchange⟩
  regressed _ _ _ _ := mem_deltas_of_finding base head hzero hle (by decide)
  improved _ _ _ _ := mem_deltas_of_finding base head hzero hle (by decide)
  steady name := by
    have haccounts := deltas_accounts base head lower
    constructor
    · intro ⟨_, _, _, himproved⟩ ⟨_, _, _, hregressed⟩
      have hlower := mem_deltas_of_finding base head hzero hle (by decide) hregressed
      exact absurd (haccounts.verdict_unique himproved hlower) (by decide)
    · intro ⟨_, _, _, hregressed⟩ ⟨_, _, _, himproved⟩
      have hlower := mem_deltas_of_finding base head hzero hle (by decide) himproved
      exact absurd (haccounts.verdict_unique hregressed hlower) (by decide)
  counts wanted := Delta.tally_thins (deltas_calm base head hzero hle) wanted

end Thresholds

/-! ### Two thresholds at the ends -/

/-- A value that changes a little, one that changes much, a zero, a value that is no number, and a name of one run. -/
def varied : Results :=
  .ofList [("g/slight", 100), ("g/strong", 100), ("g/zero", 0), ("g/nan", 0 / 0), ("g/gone", 1)]

def variedLater : Results :=
  .ofList [("g/slight", 104), ("g/strong", 50), ("g/zero", 5), ("g/nan", 1), ("g/new", 2)]

theorem deltas_thin_varied :
    (0 : Float) ≤ -0 ∧ (-0 : Float) ≤ 0.05 ∧
      Delta.Thins (varied.deltas variedLater (-0)) (varied.deltas variedLater 0.05) ∧
      Tally.ofDeltas (varied.deltas variedLater (-0)) (fun _ => true) = ⟨1, 1, 2, 1, 1⟩ ∧
      Tally.ofDeltas (varied.deltas variedLater 0.05) (fun _ => true) = ⟨1, 0, 3, 1, 1⟩ := by
  have hzero : (0 : Float) ≤ -0 := by decide +kernel
  have hle : (-0 : Float) ≤ 0.05 := by decide +kernel
  refine ⟨hzero, hle, deltas_thin varied variedLater hzero hle, ?_, ?_⟩
  · decide +kernel
  · decide +kernel

end Results

end BenchReport

import BenchReport.Proofs.Delta.Partition
import BenchReport.Settings.Basic

/-!
# Comparing some of the names

What a comparison says about a name depends on the two values under that name and on nothing else. So names can be left out before the comparison or after it: the deltas of two runs without some of their names are the other deltas of the whole runs, in the same order. A report leaves out variants after the comparison, when it counts, and a feed leaves them out before; both see the same benchmarks as tracked.
-/

namespace BenchReport

/-- A delta of values that are both hidden or both shown is there when they are shown. -/
theorem Delta.ofValues?_filter (threshold : Float) (name : String) (base head : Option Float)
    (shown : Bool) :
    ofValues? threshold name (base.filter fun _ => shown) (head.filter fun _ => shown) =
      (ofValues? threshold name base head).filter fun _ => shown := by
  cases shown with
  | false => cases base <;> cases head <;> rfl
  | true => cases base <;> cases head <;> rfl

namespace Results

variable (base head : Results) (threshold : Float)

/-- Leaving names out of both runs leaves their deltas out of the comparison. -/
theorem deltas_filter (keep : String → Bool) :
    deltas (base.filter fun name _ => keep name) (head.filter fun name _ => keep name) threshold =
      (base.deltas head threshold).filter fun delta => keep delta.name := by
  -- Both lists are in name order, so they are equal when they have the same members.
  refine SortedMap.eq_of_ascending Delta.name (deltas_ascending _ _ threshold)
    ((deltas_ascending base head threshold).filter _) fun delta => ?_
  rw [List.mem_filter, mem_deltas, mem_deltas, SortedMap.get?_filter, SortedMap.get?_filter,
    Delta.ofValues?_filter, Option.filter_eq_some_iff]

/-- A count of wanted deltas is a count of all deltas, if the others are left out of the comparison. -/
theorem tally_deltas_restrict (wanted : String → Bool) :
    Tally.ofDeltas (deltas (base.restrict wanted) (head.restrict wanted) threshold) (fun _ => true) =
      Tally.ofDeltas (base.deltas head threshold) wanted := by
  have hdeltas := deltas_filter base head threshold fun name => wanted (variantOf name)
  rw [restrict, restrict, hdeltas]
  simp only [Tally.ofDeltas, List.filter_true]

/-- A comparison of some names is the part of the whole comparison that is about them. So the counts of the tracked variants are those of a comparison that has no others. -/
theorem deltas_local :
    (∀ keep : String → Bool,
      deltas (base.filter fun name _ => keep name) (head.filter fun name _ => keep name) threshold =
        (base.deltas head threshold).filter fun delta => keep delta.name) ∧
    ∀ settings : Settings,
      Tally.ofDeltas (base.deltas head threshold) settings.tracks =
        Tally.ofDeltas
          (deltas (base.restrict settings.tracks) (head.restrict settings.tracks) threshold)
          fun _ => true :=
  ⟨deltas_filter base head threshold,
    fun settings => (tally_deltas_restrict base head threshold settings.tracks).symm⟩

end Results

end BenchReport

import BenchReport.Results.Basic

/-!
# Deltas between two runs

Two runs are compared name by name. A name in both is judged by its relative change: beyond the threshold on either side is a finding, on the threshold is not. A base of zero has no relative change and is never a finding.
-/

namespace BenchReport

/-! ### One pair of values -/

inductive Verdict where
  | improved
  | regressed
  | unchanged
  deriving DecidableEq, Repr

def defaultThreshold : Float := 0.05

def relativeChange (base head : Float) : Float :=
  if base == 0 then 0 else (head - base) / base

/-- The judgement on a pair of values. Less is better. -/
def Verdict.ofValues (base head threshold : Float) : Verdict :=
  if base == 0 then unchanged
  else if relativeChange base head < -threshold then improved
  else if threshold < relativeChange base head then regressed
  else unchanged

/-! ### Two runs -/

/-- What became of a name between two runs. -/
inductive Delta where
  | paired (verdict : Verdict) (name : String) (base head change : Float)
  | added (name : String) (head : Float)
  | removed (name : String) (base : Float)
  deriving DecidableEq

namespace Delta

def name : Delta → String
  | paired _ name _ _ _ => name
  | added name _ => name
  | removed name _ => name

def ofValues? (threshold : Float) (name : String) : Option Float → Option Float → Option Delta
  | some base, some head =>
    some (paired (.ofValues base head threshold) name base head (relativeChange base head))
  | none, some head => some (added name head)
  | some base, none => some (removed name base)
  | none, none => none

end Delta

namespace Results

def eitherNames (base head : Results) : SortedSet String := .ofList (base.keys ++ head.keys)

/-- The deltas for all names of either run, in name order. -/
def deltas (base head : Results) (threshold : Float) : List Delta :=
  (eitherNames base head).keys.filterMap fun name =>
    Delta.ofValues? threshold name (base.get? name) (head.get? name)

end Results

/-! ### Counts -/

structure Tally where
  improved : Nat
  regressed : Nat
  unchanged : Nat
  added : Nat
  removed : Nat
  deriving DecidableEq, Repr

namespace Tally

def ofDeltas (deltas : List Delta) (wanted : String → Bool) : Tally :=
  let counted := deltas.filter fun delta => wanted (Results.variantOf delta.name)
  { improved := counted.countP fun | .paired .improved .. => true | _ => false
    regressed := counted.countP fun | .paired .regressed .. => true | _ => false
    unchanged := counted.countP fun | .paired .unchanged .. => true | _ => false
    added := counted.countP fun | .added .. => true | _ => false
    removed := counted.countP fun | .removed .. => true | _ => false }

def anyRegressed (tally : Tally) : Bool := decide (0 < tally.regressed)

end Tally

end BenchReport

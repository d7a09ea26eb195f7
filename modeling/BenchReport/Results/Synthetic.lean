import BenchReport.Number.RandomStream
import BenchReport.Results.Basic

/-!
# Synthetic results

Made-up results for trying out reports: a run of a given shape, and a later run derived from it. A seed decides all values, so the same seed gives the same run.
-/

namespace BenchReport

/-! ### A run -/

structure SampleShape where
  groups : Nat
  variants : List String
  /-- The parameters of every group; without any, the names have none. -/
  parameters : List Nat
  deriving DecidableEq, Repr

namespace SampleShape

/-- Groups with five allocators at five sizes. -/
def allocators (groups : Nat) : SampleShape where
  groups := groups
  variants := ["system", "rt_nightly", "rt_std", "mimalloc", "jemalloc"]
  parameters := [8, 64, 256, 1024, 4096]

def parameterTexts (shape : SampleShape) : List (Option String) :=
  if shape.parameters.isEmpty then [none] else shape.parameters.map fun value => some (toString value)

def groupName (index : Nat) : String := "group_" ++ toString index

def names (shape : SampleShape) : List String :=
  (List.range shape.groups).flatMap fun index =>
    shape.variants.flatMap fun variant =>
      shape.parameterTexts.map (NameParts.join (groupName index) variant)

end SampleShape

namespace Results

def sampleValue (stream : RandomStream) : Float × RandomStream :=
  let (exponent, rest) := stream.between 1 7
  (Float.pow 10 exponent, rest)

def insertSamples (results : Results) (names : List String) (stream : RandomStream) :
    Results × RandomStream :=
  names.foldl (fun (results, stream) name =>
    let (value, rest) := sampleValue stream
    (results.insert name value, rest)) (results, stream)

def synthetic (shape : SampleShape) (seed : UInt64) : Results :=
  (insertSamples .empty shape.names (.ofSeed seed)).1

end Results

/-! ### A later run -/

/-- How a later run differs: every value is scaled by a factor at most `spread` from one, and about the share `turnover` of the names is replaced. -/
structure Drift where
  spread : Float
  turnover : Float

namespace Drift

/-- Whether there are factors to scale by: their range must not be empty, and it must have a finite stride. -/
def canScale (drift : Drift) : Bool :=
  -drift.spread ≤ drift.spread && (RandomStream.stride (-drift.spread) drift.spread).isFinite

structure Progress where
  kept : Results
  dropped : Nat
  stream : RandomStream

/-- Drops a result by chance, or keeps it with a scaled value. -/
def step? (drift : Drift) (progress : Progress) (entry : String × Float) : Option Progress :=
  let (chance, afterChance) := progress.stream.unit
  if chance < drift.turnover then
    some { progress with dropped := progress.dropped + 1, stream := afterChance }
  else if drift.canScale then
    let (offset, rest) := afterChance.within (-drift.spread) drift.spread
    some { progress with
      kept := progress.kept.insert entry.1 (entry.2 * (1 + offset)), stream := rest }
  else none

def freshName (index : Nat) : String := "fresh_" ++ toString index ++ "/rt_std"

/-- A later run, with a fresh name for each that was dropped. There is none where a value is kept that cannot be scaled. -/
def later? (drift : Drift) (base : Results) (seed : UInt64) : Option Results := do
  let progress ← base.entries.foldlM drift.step? ⟨.empty, 0, .ofSeed seed⟩
  let fresh := (List.range progress.dropped).map freshName
  return (progress.kept.insertSamples fresh progress.stream).1

end Drift

end BenchReport

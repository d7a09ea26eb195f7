import BenchReport.Results.Basic

/-!
# Harvests

What one pass over a source yields. A pass never fails: what cannot be used is counted, and a source without results is worth a warning.
-/

namespace BenchReport

structure Harvest where
  results : Results
  /-- How many records were there but could not be used. -/
  skipped : Nat
  /-- Set when there are no results. -/
  warning : Option String

/-- The harvest of a source with a name for warnings. -/
def Harvest.ofResults (results : Results) (skipped : Nat) (source : String) : Harvest where
  results := results
  skipped := skipped
  warning := if results.isEmpty then some ("no benchmark results found in " ++ source) else none

end BenchReport

import BenchReport.Settings.Basic

/-!
# Presets

The settings that the two kinds of source start from, before a file or the command line changes them.
-/

namespace BenchReport

def ValueProfile.nanoseconds : ValueProfile := ⟨.nanoseconds, "ns", "latency", 2⟩

def ValueProfile.wallSeconds : ValueProfile := ⟨.seconds, "seconds", "elapsed", 4⟩

namespace Settings

def standard : Settings where
  threshold := defaultThreshold
  trackedVariants := none
  chartVariants := none
  displayOrder := []
  colors := .empty
  labels := .empty
  axisCaptions := .empty
  profile := .nanoseconds
  baseSuffix := "_base"
  reportTitle := "Benchmark Comparison"
  trackedHeading := "tracked variants"
  chartsTitle := "Benchmark Charts"

/-! ### Micro-benchmarks -/

/-- The allocators of the micro-benchmark suite: variant, colour and label, in drawing order. -/
def suiteAllocators : List (String × String × String) := [
  ("system", "#888888", "system"),
  ("rt_nightly", "#2ca02c", "rt (nightly)"),
  ("rt_percpu", "#98df8a", "rt (percpu)"),
  ("rt_std", "#9467bd", "rt (std)"),
  ("rt_nostd", "#d62728", "rt (nostd)"),
  ("mimalloc", "#17becf", "mimalloc"),
  ("google_tc", "#ff7f0e", "tcmalloc"),
  ("jemalloc", "#1f77b4", "jemalloc"),
  ("snmalloc", "#e377c2", "snmalloc"),
  ("rpmalloc", "#bcbd22", "rpmalloc")]

def criterion : Settings :=
  { standard with
    trackedVariants := some (.ofList ["rt_nightly", "rt_std", "rt_nostd", "rt_percpu"])
    chartVariants := some (.ofList (suiteAllocators.map (·.1)))
    displayOrder := suiteAllocators.map (·.1)
    colors := .ofList (suiteAllocators.map fun allocator => (allocator.1, allocator.2.1))
    labels := .ofList (suiteAllocators.map fun allocator => (allocator.1, allocator.2.2))
    axisCaptions := .ofList [
      ("single_alloc_dealloc", "Allocation size (bytes)"),
      ("batch_1000", "Allocation size (bytes)"),
      ("churn", "Allocation size (bytes)"),
      ("thread_scalability", "Threads")]
    trackedHeading := "rtmalloc variants"
    chartsTitle := "rtmalloc Benchmark Charts" }

/-! ### Whole programs -/

def mimallocBench : Settings :=
  { standard with
    colors := .ofList [
      ("rt_nightly", "#2ca02c"), ("rt_std", "#9467bd"), ("mimalloc", "#17becf"),
      ("system", "#888888")]
    profile := .wallSeconds
    reportTitle := "mimalloc-bench Results"
    trackedHeading := "allocators"
    chartsTitle := "mimalloc-bench Charts" }

end Settings

end BenchReport

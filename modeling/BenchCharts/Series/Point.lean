import BenchCharts.Results.Sample
import BenchCharts.Series.Stats

/-!
Points: the trials of one backend and configuration reduced to means and a deviation. A point
exists if at least one trial was read. Latency and throughput are reduced apart, and each is left
out where no trial carries it or one of its values is not finite.
-/
namespace BenchCharts.Series

open Results (Configuration Sample)
open Style (BackendId)

structure Point (α : Type) where
  backend : BackendId
  configuration : Configuration
  trials : Nat
  latency : Option α
  throughput : Option α
  deviation : Option α
  deriving Repr

section
variable {α : Type}

/-- Thousands of operations per second. -/
def thousands [Quantity α] (x : α) : α := x / ((1000 : Nat) : α)

def Point.throughputThousands? [Quantity α] (p : Point α) : Option α := p.throughput.map thousands

def Point.deviationThousands? [Quantity α] (p : Point α) : Option α := p.deviation.map thousands

/-- The point of samples of one backend and configuration. -/
def Point.ofSamples [Analytic α] (samples : List (Sample α)) : Option (Point α) :=
  samples.head?.map fun first =>
    let latency := (Stats.ofValues (samples.filterMap (·.latency))).toOption
    let throughput := (Stats.ofValues (samples.filterMap (·.throughput))).toOption
    { backend := first.backend
      configuration := first.configuration
      trials := samples.length
      latency := latency.map (·.average)
      throughput := throughput.map (·.average)
      deviation := throughput.map (·.standardDeviation) }

theorem Point.ofSamples_isNone_iff [Analytic α] (samples : List (Sample α)) :
    (Point.ofSamples samples).isNone ↔ samples = [] := by
  cases samples <;> simp [Point.ofSamples]

end

end BenchCharts.Series

import BenchCharts.Results.Configuration
import BenchCharts.Style.Backend

/-!
What one trial contributes to a series. Not every kind of record carries a latency.
-/
namespace BenchCharts.Results

open Style (BackendId)

structure Sample (α : Type) where
  backend : BackendId
  database : String
  configuration : Configuration
  trial : Nat
  /-- Microseconds. -/
  latency : Option α
  /-- Operations per second. -/
  throughput : Option α
  deriving Repr

end BenchCharts.Results

import BenchCharts.Results.SizeRows
import BenchCharts.Series.Stats

/-!
Size sweeps in buckets. Consecutive rows of one size form a bucket with their mean latency, in the
order of the rows. Rows are neither sorted nor merged, so a size that comes back later opens
another bucket. A bucket whose rows have no mean is left out.
-/
namespace BenchCharts.Series

open Results (SizeRow)

structure SizeBucket where
  size : Nat
  latency : Float
  rows : Nat
  deriving Repr

structure SizeSeries where
  buckets : List SizeBucket
  deriving Repr

namespace SizeSeries

def points (s : SizeSeries) : List (Float × Float) :=
  s.buckets.map fun b => (wordToFloat b.size, b.latency)

def isEmpty (s : SizeSeries) : Bool := s.buckets.isEmpty

end SizeSeries

/-- A scan of rows: the size whose run is open with its latencies, latest first, and the closed
buckets, latest first. -/
structure SizeScan where
  current : Option (Nat × List Float)
  closed : List SizeBucket

namespace SizeScan

def start : SizeScan := ⟨none, []⟩

def bucketOf? (size : Nat) (latencies : List Float) : Option SizeBucket :=
  (mean? latencies).map fun m => ⟨size, m, latencies.length⟩

def close (s : SizeScan) : List SizeBucket :=
  match s.current with
  | none => s.closed
  | some (size, latencies) => (bucketOf? size latencies.reverse).toList ++ s.closed

def push (s : SizeScan) (row : SizeRow) : SizeScan :=
  match s.current with
  | some (size, latencies) =>
      if size = row.size then { s with current := some (size, row.latency :: latencies) }
      else ⟨some (row.size, [row.latency]), s.close⟩
  | none => ⟨some (row.size, [row.latency]), s.closed⟩

def finish (s : SizeScan) : SizeSeries := ⟨s.close.reverse⟩

end SizeScan

def SizeSeries.ofRows (rows : List SizeRow) : SizeSeries :=
  (rows.foldl SizeScan.push SizeScan.start).finish

theorem SizeSeries.ofRows_nil : (SizeSeries.ofRows []).buckets = [] := rfl

end BenchCharts.Series

import BenchCharts.Quantity

/-!
Axes: ranges of values with both ends included, and the two scales on which values are placed. On
a logarithmic axis only positive values have a position.
-/
namespace BenchCharts.Geometry

structure AxisRange (α : Type) where
  min : α
  max : α
  deriving Repr, BEq, Inhabited

inductive Scale
  | linear
  | log
  deriving DecidableEq, Repr, Inhabited

section
variable {α : Type}

def AxisRange.contains [Quantity α] (r : AxisRange α) (v : α) : Bool :=
  decide (r.min ≤ v) && decide (v ≤ r.max)

namespace Scale

/-- Where a value stands along an axis. -/
def position? [Analytic α] (scale : Scale) (v : α) : Option α :=
  match scale with
  | linear => if Quantity.isFinite v then some v else none
  | log => if 0 < v ∧ Quantity.isFinite v then some (Analytic.log10 v) else none

def value [Analytic α] (scale : Scale) (position : α) : α :=
  match scale with
  | linear => position
  | log => Analytic.exp10 position

end Scale

end

end BenchCharts.Geometry

import Mathlib.Algebra.Order.Round
import Mathlib.Algebra.Order.Field.Basic
import Mathlib.Data.Rat.Floor
import BenchCharts.Quantity

/-!
The arithmetic of an ordered field, where nothing is rounded and every quantity is finite. A field
has no square roots or logarithms of its own, so these are given beside it.
-/
namespace BenchCharts

/-- The functions of plane geometry that a field need not have. -/
class Elementary (K : Type) where
  sqrt : K → K
  log10 : K → K
  exp10 : K → K

section
variable {K : Type} [Field K] [LinearOrder K] [FloorRing K]

instance : Quantity K where
  decidableLT := inferInstance
  decidableLE := inferInstance
  larger := max
  smaller := min
  floor x := max Int64.minValue.toInt (min ⌊x⌋ Int64.maxValue.toInt)
  ceil x := max Int64.minValue.toInt (min ⌈x⌉ Int64.maxValue.toInt)
  round x := max Int32.minValue.toInt
    (min (if 0 ≤ x then round x else -round (-x)) Int32.maxValue.toInt)
  isFinite _ := true

instance [Elementary K] : Analytic K where
  sqrt := Elementary.sqrt
  log10 := Elementary.log10
  exp10 := Elementary.exp10

end

end BenchCharts

/-!
The arithmetic of measurements and of plane geometry. Statistics, clipping and hatching are written
over this class once: the program runs them on doubles, and their laws are stated where the same
operations are exact.
-/
namespace BenchCharts

class Quantity (α : Type) extends Zero α, One α, Add α, Sub α, Mul α, Div α, Neg α, NatCast α,
    IntCast α, OfScientific α, LT α, LE α, BEq α where
  decidableLT : DecidableLT α
  decidableLE : DecidableLE α
  /-- The larger of two quantities; a quantity beats one that is no number. -/
  larger : α → α → α
  /-- The smaller of two quantities; a quantity beats one that is no number. -/
  smaller : α → α → α
  /-- The nearest whole number at or below, kept within the range of 64-bit numbers. -/
  floor : α → Int
  /-- The nearest whole number at or above, kept within the range of 64-bit numbers. -/
  ceil : α → Int
  /-- The nearest whole number, halves away from zero, kept within the range of 32-bit numbers. -/
  round : α → Int
  isFinite : α → Bool

attribute [reducible, instance] Quantity.decidableLT Quantity.decidableLE

/-- Quantities with square roots and with the logarithm of a logarithmic axis. -/
class Analytic (α : Type) extends Quantity α where
  sqrt : α → α
  log10 : α → α
  exp10 : α → α

namespace Quantity

def absolute {α : Type} [Quantity α] (x : α) : α := if x < 0 then -x else x

end Quantity

/-- A whole number as a double, rounded to the nearest. -/
def wordToFloat (n : Nat) : Float := if n < UInt64.size then n.toUInt64.toFloat else Float.ofNat n

/-- A double without its fraction, as a whole number between the bounds; what is no number is 0. -/
def saturate (low high : Int) (x : Float) : Int :=
  if x.isNaN then 0
  else if x ≤ Float.ofInt low then low
  else if Float.ofInt high ≤ x then high
  else if x < 0 then -((-x).toUInt64.toNat : Int) else x.toUInt64.toNat

instance : Analytic Float where
  zero := 0.0
  one := 1.0
  natCast := wordToFloat
  intCast n := if n < 0 then -wordToFloat n.natAbs else wordToFloat n.natAbs
  decidableLT := inferInstance
  decidableLE := inferInstance
  larger a b := if a.isNaN then b else if b.isNaN then a else if a < b then b else a
  smaller a b := if a.isNaN then b else if b.isNaN then a else if b < a then b else a
  floor x := saturate Int64.minValue.toInt Int64.maxValue.toInt x.floor
  ceil x := saturate Int64.minValue.toInt Int64.maxValue.toInt x.ceil
  round x := saturate Int32.minValue.toInt Int32.maxValue.toInt x.round
  isFinite := Float.isFinite
  sqrt := Float.sqrt
  log10 := Float.log10
  exp10 x := Float.pow 10.0 x

end BenchCharts

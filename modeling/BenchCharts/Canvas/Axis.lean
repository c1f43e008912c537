import BenchCharts.Canvas.Sketch
import BenchCharts.Geometry.Scale

/-!
Axes in pixels. The ends of the range lie on the two limits, which may be given in either order,
and a position in between is rounded towards the first limit, with a thousandth of a pixel to
spare. An axis whose range is a single value has all values in one place.
-/
namespace BenchCharts.Canvas

open BenchCharts.Geometry (AxisRange Scale)

structure Axis where
  range : AxisRange Float
  scale : Scale
  deriving Repr

/-- A double without its fraction as a number of 32 bits. -/
def wholePixel (x : Float) : Int := saturate Int32.minValue.toInt Int32.maxValue.toInt x

/-- The pixel of `v` if `low` and `high` lie at the limits. -/
def linearPixel (low high v : Float) (limits : Int × Int) : Sketch Int := do
  let length ← fit (limits.2 - limits.1)
  if high == low then return length.tdiv 2
  else
    let t := (v - low) / (high - low)
    if length = 0 then return limits.2
    else if t.isInf then return if 0 < t then limits.2 else limits.1
    else if 0 < length then
      fit (limits.1 + wholePixel (Float.ofInt length * t + 0.001).floor)
    else fit (limits.1 + wholePixel (Float.ofInt length * t - 0.001).ceil)

/-- The ends of a logarithmic axis without their signs, and whether they had one. An end at zero
is moved five decades below the other one. -/
def logEnds (r : AxisRange Float) : Float × Float × Bool :=
  let negative := decide (r.min < 0) || decide (r.max < 0)
  let low := if negative then -r.min else r.min
  let high := if negative then -r.max else r.max
  if low < high then (if low == 0 then high * 1e-5 else low, high, negative)
  else (low, if high == 0 then Quantity.larger high (low * 1e-5) else high, negative)

namespace Axis

def pixel (a : Axis) (limits : Int × Int) (v : Float) : Sketch Int :=
  match a.scale with
  | .linear => linearPixel a.range.min a.range.max v limits
  | .log =>
      let (low, high, negative) := logEnds a.range
      linearPixel low.log high.log (if negative then -v else v).log limits

end Axis

end BenchCharts.Canvas

import BenchCharts.Canvas.Axis
import BenchCharts.Decimal.Numeral

/-!
The values at which an axis has ticks. On a linear axis they are multiples of a step of one, two
or five times a power of ten, the smallest one that gives no more ticks than asked for. On a
logarithmic axis they are powers of ten, with evenly spaced values between them where there is
room.
-/
namespace BenchCharts.Canvas

/-- The difference of two doubles of about one that differ at all. -/
def leastDifference : Float := 2.220446049250313e-16

/-- The logarithm to base ten by way of natural ones. -/
private def decades (x : Float) : Float := x.log / Float.log 10.0

private def toCount (x : Float) : Nat := (saturate 0 Decimal.maxWord x).toNat

namespace LinearTicks

/-- What is left of `a` above a multiple of a positive `b`. -/
def remainder (a b : Float) : Float :=
  let r := if 0 < b then a - (a / b).floor * b else a - (a / b).ceil * b
  if (r - b).abs < leastDifference then 0.0 else r

/-- The first multiple of a step that is not below `low`. -/
def firstMultiple (low step : Float) : Float :=
  let first := low - remainder low step
  if first < low then first + step else first

/-- How many multiples of `scale / part` lie in the range. -/
def countOf (low high scale part : Float) : Nat :=
  let first := firstMultiple low (scale / part)
  let last := high - remainder high (scale / part)
  toCount (1.0 + (last - first) / scale * part).round

/-- The finest of the steps within a decade that give no more than `most` ticks, and whether all
of them do. -/
def refine (low high scale : Float) (most : Nat) : Float × Bool :=
  if most < countOf low high scale 2.0 then (scale, false)
  else if most < countOf low high scale 5.0 then (scale / 2.0, false)
  else if most < countOf low high scale 10.0 then (scale / 5.0, false)
  else (scale / 10.0, true)

/-- The step with the grain of its decade. The number of ticks grows tenfold with each decade, so
a few decades are enough. -/
def search (low high : Float) (most : Nat) : Nat → Float × Float → Float × Float
  | 0, found => found
  | fuel + 1, (scale, grain) =>
      let (step, all) := refine low high scale most
      if all then search low high most fuel (step, grain / 10.0) else (step, grain)

/-- Ticks from an offset above `base` on. Offsets are added to the base only at the end, so that
small steps are not lost beside it. -/
def walk (base last step grain : Float) : Nat → Float → List Float
  | 0, _ => []
  | fuel + 1, offset =>
      if -leastDifference ≤ last - offset - base then
        let offset := if (offset / grain).round * grain < 0 then offset + grain else offset
        (offset + base) :: walk base last step grain fuel (offset + step)
      else []

def values (a b : Float) (most : Nat) : List Float :=
  let low := Quantity.smaller a b
  let high := Quantity.larger b a
  if most = 0 then []
  else if (low - high).abs < leastDifference then [low]
  else
    let scale := Float.pow 10.0 (decades (high - low)).floor
    let start :=
      if most < 1 + toCount ((high - low) / scale).floor then (scale * 10.0, scale / 10.0 * 10.0)
      else (scale, scale / 10.0)
    let (step, grain) := search low high most (most + 8) start
    let first := firstMultiple low step
    let base := (first / grain).floor * grain
    walk base (high - remainder high step) step grain (2 * most + 8) (first - base)

end LinearTicks

namespace LogTicks

/-- Evenly spaced values between a tick and the next one, up to `high`. -/
def between (value high factor : Float) (count : Nat) : List Float :=
  ((List.range count).map fun i =>
    value * (1.0 + factor / wordToFloat (count + 1) * wordToFloat (i + 1))).takeWhile
      fun v => !(decide (high < v))

/-- Ticks from a value on, each `factor` times the one before. -/
def walk (high factor : Float) (count : Nat) (sign : Float) : Nat → Float → List Float
  | 0, _ => []
  | fuel + 1, value =>
      if value ≤ high then
        let here :=
          if value.abs < leastDifference then []
          else (value :: between value high factor count).map fun v => sign * v
        here ++ walk high factor count sign fuel (value * factor)
      else []

/-- The largest power of ten up to a number. -/
def powerBelow (n : Nat) : Nat := Nat.pow 10 ((Nat.toDigits 10 n).length - 1)

/-- How many decades are passed over at once so that no more than `most` ticks are left. -/
def stride (most decadeCount : Nat) : Nat → Nat → Nat
  | 0, count => count
  | fuel + 1, count =>
      if most < decadeCount / count then stride most decadeCount fuel (count + 1) else count

/-- Doubles have fewer decades than this. -/
def decadeLimit : Nat := 700

def values (low high : Float) (negative : Bool) (most : Nat) : List Float :=
  let (low, high) := if high < low then (high, low) else (low, high)
  let decadeCount := toCount (Quantity.larger (decades (high / low)).abs.floor 1.0)
  let count :=
    if most < decadeCount then 0 else powerBelow (1 + (most - decadeCount) / decadeCount) - 1
  let factor := (List.replicate (stride most decadeCount decadeLimit 1) 10.0).foldl (· * ·) 1.0
  walk high factor count (if negative then -1.0 else 1.0) decadeLimit
    (Float.pow 10.0 (decades low).ceil)

end LogTicks

/-- No more than `most` ticks, as far as whole steps allow it. -/
def Axis.ticks (a : Axis) (most : Nat) : List Float :=
  match a.scale with
  | .linear => LinearTicks.values a.range.min a.range.max most
  | .log =>
      let (low, high, negative) := logEnds a.range
      LogTicks.values low high negative most

end BenchCharts.Canvas

import BenchCharts.Decimal.Binary64

/-!
The fewest decimal digits that read back as the same double. A double stands for the interval of
reals that round to it, whose ends count when the mantissa is even. On the decimal grids of one,
two and more digits the two neighbours of the exact value are tried, and the first grid with a
neighbour in the interval wins; of two hits the nearer one is taken, on a tie the even one.
-/
namespace BenchCharts.Decimal

/-- The decimal number `digits * 10 ^ exponent`. -/
structure Number where
  digits : Nat
  exponent : Int
  deriving DecidableEq, Repr

/-- The reals that round to a double, as fractions over one denominator. -/
structure Rounding where
  low : Nat
  value : Nat
  high : Nat
  denominator : Nat
  closed : Bool

namespace Rounding

/-- Neighbouring doubles are one unit in the last place apart, half of that below a power of two. -/
def ofBinary (mantissa : Nat) (exponent : Int) : Rounding :=
  let unit := 1 <<< (exponent - 2).toNat
  let below := if mantissa = 1 <<< 52 ∧ -1074 < exponent then 1 else 2
  { low := (4 * mantissa - below) * unit
    value := 4 * mantissa * unit
    high := (4 * mantissa + 2) * unit
    denominator := 1 <<< (2 - exponent).toNat
    closed := mantissa % 2 = 0 }

/-- The decimal number lies in the interval; `up` and `down` are the powers of ten by which grid
and value are scaled. -/
def holds (r : Rounding) (up down candidate : Nat) : Bool :=
  let c := candidate * up * r.denominator
  let low := r.low * down
  let high := r.high * down
  if r.closed then low ≤ c && c ≤ high else low < c && c < high

/-- The neighbour of the value on the grid of multiples of `10 ^ k` that reads back, if any. -/
def onGrid (r : Rounding) (k : Int) : Option Nat :=
  let up := Nat.pow 10 k.toNat
  let down := Nat.pow 10 (-k).toNat
  let scale := up * r.denominator
  let floor := r.value * down / scale
  let rest := r.value * down % scale
  let takeUpper := scale < 2 * rest || (2 * rest = scale && floor % 2 = 1)
  match r.holds up down floor, r.holds up down (floor + 1) with
  | true, true => some (if takeUpper then floor + 1 else floor)
  | true, false => some floor
  | false, true => some (floor + 1)
  | false, false => none

end Rounding

/-- The power of ten just at or below `numerator / denominator`, found from the binary length. -/
def decimalOrder (mantissa : Nat) (exponent : Int) : Int :=
  let n := Binary64.numerator mantissa exponent
  let d := Binary64.denominator exponent
  let guess := (((mantissa.log2 : Int) + exponent) * 1233) / 4096
  let reaches (k : Int) : Bool := d * Nat.pow 10 k.toNat ≤ n * Nat.pow 10 (-k).toNat
  if reaches (guess + 1) then guess + 1
  else if reaches guess then guess
  else guess - 1

/-- Trailing zeros go into the exponent. -/
def stripZeros (digits : Nat) (exponent : Int) : Number :=
  if digits ≠ 0 ∧ digits % 10 = 0 then stripZeros (digits / 10) (exponent + 1)
  else ⟨digits, exponent⟩
termination_by digits
decreasing_by omega

/-- Seventeen digits always suffice, so the last grid decides. -/
def shortest (mantissa : Nat) (exponent : Int) : Number :=
  let r := Rounding.ofBinary mantissa exponent
  let order := decimalOrder mantissa exponent
  let found := (List.range 17).findSome? fun (n : Nat) =>
    let k := order - (n : Int)
    (r.onGrid k).map fun digits => stripZeros digits k
  found.getD ⟨0, 0⟩

end BenchCharts.Decimal

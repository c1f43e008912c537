import BenchCharts.Decimal.Numeral
import BenchCharts.Quantity

/-!
Line styles. A broken line has one dash length and one gap, both proportional to the line width
and at least one pixel long.
-/
namespace BenchCharts.Style

inductive LineStyle
  | solid
  | dotted
  | dashed
  | dashDot
  | longDash
  deriving DecidableEq, Repr, Inhabited

namespace LineStyle

def named : List (String × LineStyle) :=
  [("solid", solid), ("dotted", dotted), ("dashed", dashed), ("dash_dot", dashDot),
    ("long_dash", longDash)]

def name : LineStyle → String
  | solid => "solid"
  | dotted => "dotted"
  | dashed => "dashed"
  | dashDot => "dash_dot"
  | longDash => "long_dash"

theorem lookup_name (s : LineStyle) : named.lookup s.name = some s := by cases s <;> rfl

/-- Dash and gap at a line width of one. -/
def pattern? : LineStyle → Option (Float × Float)
  | solid => none
  | dotted => some (1.0, 1.65)
  | dashed => some (3.7, 1.6)
  | dashDot => some (6.4, 4.2)
  | longDash => some (10.0, 3.0)

/-- Dash and gap in pixels; a line of width zero is dashed like one of width one. -/
def dash? (style : LineStyle) (lineWidth : Nat) : Option (Nat × Nat) :=
  let width := wordToFloat (max lineWidth 1)
  let pixels (v : Float) : Nat :=
    (saturate 0 Decimal.maxHalfWord (Quantity.larger (v * width).round 1.0)).toNat
  style.pattern?.map fun (on, off) => (pixels on, pixels off)

end LineStyle

end BenchCharts.Style

import BenchCharts.Geometry.Outline
import BenchCharts.Geometry.Scale

/-!
Bars over categories. Categories are one unit apart, the first one at zero, and the bars of one
category stand side by side around it. An axis of bars starts at zero and leaves a twentieth of
the greatest value free.
-/
namespace BenchCharts.Chart

open BenchCharts.Geometry (AxisRange)

section
variable {α : Type} [Quantity α]

/-- The greatest of some values. -/
def greatest? : List α → Option α
  | [] => none
  | v :: rest => some (rest.foldl Quantity.larger v)

/-- From zero to somewhat above the greatest value, or to one if that is not positive. -/
def zeroBased (greatest : Option α) : AxisRange α :=
  match greatest with
  | some v => if 0 < v then ⟨0, v * 1.05⟩ else ⟨0, 1⟩
  | none => ⟨0, 1⟩

/-- Half a unit around all categories. -/
def categoryRange (count : Nat) : AxisRange α := ⟨-0.5, ((max count 1 : Nat) : α) - 0.5⟩

/-- The left and the right edge of a bar, out of `count` bars in its category. -/
def barEdges (category index count : Nat) (width : α) : α × α :=
  let center := (category : α) + Geometry.groupOffset index count width
  (center - width / ((2 : Nat) : α), center + width / ((2 : Nat) : α))

end

end BenchCharts.Chart

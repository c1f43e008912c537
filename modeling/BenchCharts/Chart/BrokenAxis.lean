import BenchCharts.Chart.Line
import BenchCharts.Chart.Measure
import BenchCharts.Geometry.Extent

/-!
Line charts with a broken y axis: two panels above one another share the x axis, the upper one for
a band of outliers and the lower one for the usual values. Every line is drawn in both panels.
Lines that belong to a secondary axis are left out.
-/
namespace BenchCharts.Chart

open Canvas (Area Axis CanvasSize Element LegendEntry Mesh Pen Plot Sketch)
open BenchCharts.Geometry (AxisRange Scale Window)

structure BrokenAxis where
  xDescription : String
  yDescription : String
  xScale : Scale
  /-- Taken from the lines if not given. -/
  xRange : Option (AxisRange Float)
  lower : AxisRange Float
  upper : AxisRange Float
  lines : List StyledLine
  deriving Repr

namespace BrokenAxis

/-- The range of an axis without any data. -/
def emptyRange : Scale → AxisRange Float
  | .linear => ⟨0, 1⟩
  | .log => ⟨1, 10⟩

def drawn (c : BrokenAxis) : List StyledLine := c.lines.filter fun l => l.style.isPrimary

def shownRange (c : BrokenAxis) : AxisRange Float :=
  let values := c.drawn.flatMap fun l => l.points.map (·.1)
  c.xRange.getD ((Geometry.paddedExtent c.xScale values).getD (emptyRange c.xScale))

def legend (c : BrokenAxis) (pen : Pen) : List LegendEntry := c.drawn.map (·.legendEntry pen)

def xAxis (c : BrokenAxis) : Axis := ⟨c.shownRange, c.xScale⟩

def window (c : BrokenAxis) (y : AxisRange Float) : Window Float :=
  ⟨c.shownRange, c.xScale, y, .linear⟩

def upperMesh (pen : Pen) : Mesh := ⟨none, 3, none, none, pen.fontSize⟩

def lowerMesh (c : BrokenAxis) (pen : Pen) : Mesh :=
  ⟨some 6, 3, some c.xDescription, none, pen.fontSize⟩

/-- The two panels, the upper one first. -/
structure Panels where
  upper : Plot
  lower : Plot

/-- The panels on a canvas that is split at a height. -/
def panels (c : BrokenAxis) (size : CanvasSize) (height : Nat) : Sketch Panels := do
  let (above, below) ← (Area.ofSize size).splitBelow height
  let upper ← Plot.layout above ⟨⟨marginTop, gap / 2, 0, 24⟩, 70, 0⟩ c.xAxis ⟨c.upper, .linear⟩
  let lower ← Plot.layout below ⟨⟨gap / 2, 0, 0, 24⟩, 70, xLabels⟩ c.xAxis ⟨c.lower, .linear⟩
  return ⟨upper, lower⟩

def meshElements (c : BrokenAxis) (pen : Pen) (p : Panels) : Sketch (List Element) :=
  return (← p.upper.meshElements (upperMesh pen)) ++ (← p.lower.meshElements (c.lowerMesh pen))

/-- A line in both panels. -/
def lineElements (c : BrokenAxis) (pen : Pen) (p : Panels) (l : StyledLine) :
    Sketch (List Element) := do
  let above ← l.elements p.upper (c.window c.upper) pen
  return above ++ (← l.elements p.lower (c.window c.lower) pen)

/-- The edges that the axes leave open, except the one where the panels meet. -/
def edges (p : Panels) : Sketch (List Element) := do
  let x := p.upper.x.range
  let top := p.upper.y.range.max
  let rightEdge (p : Plot) : Sketch Element :=
    p.outline [(x.max, p.y.range.min), (x.max, p.y.range.max)]
  return [← rightEdge p.upper, ← p.upper.outline [(x.min, top), (x.max, top)],
    ← rightEdge p.lower]

/-- The marks at both ends of the break. -/
def marks (root : Area) (p : Panels) : Sketch (List Element) := do
  let upper := p.upper.area
  let lower := p.lower.area
  return (← Canvas.breakMarks root upper.left upper.right upper.bottom) ++
    (← Canvas.breakMarks root lower.left lower.right lower.top)

/-- The description of the y axis, in the middle of both panels. -/
def description (c : BrokenAxis) (root : Area) (pen : Pen) (p : Panels) : Sketch Element := do
  let ends ← Canvas.fit (p.upper.area.top + p.lower.area.bottom)
  Canvas.verticalText root c.yDescription (18, ends.tdiv 2) pen.fontSize

/-- What is drawn after the legend. -/
def closing (c : BrokenAxis) (size : CanvasSize) (pen : Pen) (p : Panels) :
    Sketch (List Element) := do
  let root := Area.ofSize size
  return (← edges p) ++ (← marks root p) ++ [← c.description root pen p]

/-- The chart on a canvas that is split at a height. -/
def elements (c : BrokenAxis) (size : CanvasSize) (pen : Pen) (height : Nat) :
    Sketch (List Element) := do
  let panels ← c.panels size height
  let meshes ← c.meshElements pen panels
  let lines ← c.drawn.flatMapM (c.lineElements pen panels)
  let legend ← Canvas.Legend.elements panels.upper.area (c.legend pen) pen.fontSize true
  return meshes ++ lines ++ legend ++ (← c.closing size pen panels)

end BrokenAxis

end BenchCharts.Chart

import BenchCharts.Chart.Line
import BenchCharts.Geometry.Extent

/-!
Line charts whose axes are both logarithmic. The x axis shows a given window, at which the lines
are cut, and the y axis the values inside it.
-/
namespace BenchCharts.Chart

open Canvas (Area CanvasSize Element LegendEntry Mesh Pen Plot Sketch)
open BenchCharts.Geometry (AxisRange Window)

structure LogLog where
  xDescription : String
  yDescription : String
  xRange : AxisRange Float
  /-- Taken from the points inside the window if not given. -/
  yRange : Option (AxisRange Float)
  lines : List StyledLine
  deriving Repr

namespace LogLog

def shownRange (c : LogLog) : AxisRange Float :=
  let points := (c.lines.flatMap (·.points)).filter fun p => c.xRange.contains p.1
  c.yRange.getD ((Geometry.paddedExtent .log (points.map (·.2))).getD ⟨1, 10⟩)

def legend (c : LogLog) (pen : Pen) : List LegendEntry := c.lines.map (·.legendEntry pen)

def window (c : LogLog) : Window Float := ⟨c.xRange, .log, c.shownRange, .log⟩

def mesh (c : LogLog) (pen : Pen) : Mesh :=
  ⟨some 11, 11, some c.xDescription, some c.yDescription, pen.fontSize⟩

def plot (c : LogLog) (a : Area) : Sketch Plot :=
  Plot.layout a ⟨⟨10, 10, 10, 24⟩, 80, 64⟩ ⟨c.xRange, .log⟩ ⟨c.shownRange, .log⟩

def elements (c : LogLog) (size : CanvasSize) (pen : Pen) : Sketch (List Element) := do
  let plot ← c.plot (.ofSize size)
  let mesh ← plot.meshElements (c.mesh pen)
  let lines ← c.lines.flatMapM fun l => l.elements plot c.window pen
  return mesh ++ lines ++ (← Canvas.Legend.elements plot.area (c.legend pen) pen.fontSize true)

end LogLog

end BenchCharts.Chart

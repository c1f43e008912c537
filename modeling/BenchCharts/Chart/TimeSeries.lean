import BenchCharts.Canvas.Plot
import BenchCharts.Geometry.Extent

/-!
Plain line charts of values over time, one line for each series in the colors of the default
cycle, without a legend.
-/
namespace BenchCharts.Chart

open Canvas (Area CanvasSize Element Mesh Pen Plot Sketch)
open BenchCharts.Geometry (AxisRange)
open Style (Color)

structure TimeSeries where
  name : String
  points : List (Float × Float)
  deriving Repr

structure Timeline where
  xDescription : String
  yDescription : String
  series : List TimeSeries
  deriving Repr

namespace Timeline

def extent (c : Timeline) (coordinate : Float × Float → Float) : AxisRange Float :=
  let values := c.series.flatMap fun s => s.points.map coordinate
  (Geometry.paddedExtent .linear values).getD ⟨0, 1⟩

def plot (c : Timeline) (a : Area) : Sketch Plot :=
  Plot.layout a ⟨⟨16, 16, 16, 20⟩, 80, 56⟩ ⟨c.extent (·.1), .linear⟩ ⟨c.extent (·.2), .linear⟩

def mesh (c : Timeline) (pen : Pen) : Mesh :=
  ⟨some 6, 6, some c.xDescription, some c.yDescription, pen.fontSize⟩

def elements (c : Timeline) (size : CanvasSize) (pen : Pen) : Sketch (List Element) := do
  let plot ← c.plot (.ofSize size)
  let mesh ← plot.meshElements (c.mesh pen)
  let lines ← (c.series.zipIdx.filter fun (s, _) => !s.points.isEmpty).mapM fun (s, i) =>
    return .polyline (← s.points.mapM plot.place) (Color.cycle i) pen.lineWidth
  return mesh ++ lines

end Timeline

end BenchCharts.Chart

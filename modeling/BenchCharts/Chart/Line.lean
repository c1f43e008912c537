import BenchCharts.Canvas.Legend
import BenchCharts.Canvas.Plot
import BenchCharts.Geometry.Clip
import BenchCharts.Style.Entry

/-!
Lines in the style of a backend. A line is cut at the edges of a window, and markers stand at the
points inside it.
-/
namespace BenchCharts.Chart

open Canvas (Element LegendEntry Patch Pen Pixel Plot Sketch)
open BenchCharts.Geometry (Window)
open Style (Entry)

structure StyledLine where
  style : Entry
  label : String
  /-- In data coordinates, in drawing order. -/
  points : List (Float × Float)
  deriving Repr

namespace StyledLine

def outline (l : StyledLine) (pen : Pen) : List Pixel :=
  Geometry.markerOutline l.style.marker pen.markerSize

/-- A solid line is one dash that is as long as the swatch. -/
def legendEntry (l : StyledLine) (pen : Pen) : LegendEntry :=
  let dash := (l.style.lineStyle.dash? pen.lineWidth).getD (Canvas.swatchLength, 1)
  ⟨l.label, .line l.style.color pen.lineWidth dash (l.outline pen)⟩

def runElements (l : StyledLine) (plot : Plot) (pen : Pen) (run : List (Float × Float)) :
    Sketch (List Element) := do
  let places ← run.mapM plot.place
  let paths := match l.style.lineStyle.dash? pen.lineWidth with
    | none => [places]
    | some (dash, gap) => Canvas.dashed dash gap places
  return paths.map fun path => .polyline path l.style.color pen.lineWidth

def elements (l : StyledLine) (plot : Plot) (window : Window Float) (pen : Pen) :
    Sketch (List Element) := do
  let runs ← (window.clipLine l.points).flatMapM (l.runElements plot pen)
  let markers ← (l.points.filter window.contains).mapM fun p => do
    return .polygon (← Patch.moved (l.outline pen) (← plot.place p)) l.style.color
  return runs ++ markers

end StyledLine

end BenchCharts.Chart

import BenchCharts.Canvas.Patch
import BenchCharts.Canvas.Plot
import BenchCharts.Chart.Category
import BenchCharts.Chart.Measure
import BenchCharts.Geometry.Extent
import BenchCharts.Style.Entry

/-!
Panels of bars side by side: every panel has one bar for each backend, at the same places along
the x axis, with the backend's name under it.
-/
namespace BenchCharts.Chart

open Canvas (Area CanvasSize Element Mesh Pen Plot Sketch)
open BenchCharts.Geometry (AxisRange Scale)
open Style (Entry)

structure BarPanel where
  yDescription : String
  yScale : Scale
  /-- Taken from the bars if not given. -/
  yRange : Option (AxisRange Float)
  bars : List (Entry × Option Float)
  deriving Repr

structure SideBySide where
  /-- The places of the bars in every panel. -/
  positions : List Float
  xRange : AxisRange Float
  barWidth : Float
  panels : List BarPanel
  deriving Repr

namespace BarPanel

def shownRange (p : BarPanel) : AxisRange Float :=
  let values := p.bars.filterMap (·.2)
  p.yRange.getD (match p.yScale with
    | .linear => zeroBased (greatest? values)
    | .log => (Geometry.paddedExtent .log values).getD ⟨1, 10⟩)

def mesh (p : BarPanel) (pen : Pen) : Mesh := ⟨none, 5, none, some p.yDescription, pen.fontSize⟩

end BarPanel

namespace SideBySide

/-- The most lines that a label has. -/
def labelLines (c : SideBySide) : Nat :=
  ((c.panels.flatMap fun p => p.bars.map fun (style, _) =>
    (Text.lines style.tickLabel).length).max?).getD 1

/-- Room for letters: below the bars, and above them in every panel. -/
structure Rooms where
  labels : Nat
  tops : List Nat

def rooms (c : SideBySide) (pen : Pen) : Except MeasureError Rooms := do
  let labels ← labelRoom c.labelLines pen
  let tops ← c.panels.mapM fun _ => marginTop pen
  return ⟨labels, tops⟩

def barElements (c : SideBySide) (plot : Plot) (style : Entry) (value : Option Float) (x : Float) :
    Sketch (List Element) := do
  match value with
  | none => return []
  | some v =>
      let half := c.barWidth / 2.0
      let first ← plot.place (x - half, plot.y.range.min)
      let last ← plot.place (x + half, v)
      return [← Canvas.box first last (.solid style.color) true]

def panelElements (c : SideBySide) (p : BarPanel) (a : Area) (top labels : Nat) (pen : Pen) :
    Sketch (List Element) := do
  let y := p.shownRange
  let plot ← Plot.layout a ⟨⟨top, 10, 10, 20⟩, 80, labels⟩ ⟨c.xRange, .linear⟩ ⟨y, p.yScale⟩
  let placed := p.bars.zip c.positions
  let mesh ← plot.meshElements (p.mesh pen)
  let bars ← placed.flatMapM fun ((style, value), x) => c.barElements plot style value x
  let frame ← plot.frame
  let names ← placed.flatMapM fun ((style, _), x) => do
    Canvas.labelBelow a style.tickLabel (← plot.pixel (x, y.min)) pen.fontSize
  return mesh ++ bars ++ [frame] ++ names

/-- The chart with room for its letters. -/
def elements (c : SideBySide) (size : CanvasSize) (pen : Pen) (rooms : Rooms) :
    Sketch (List Element) := do
  let areas ← (Area.ofSize size).columns (max c.panels.length 1)
  ((c.panels.zip areas).zip rooms.tops).flatMapM fun ((p, a), top) =>
    c.panelElements p a top rooms.labels pen

end SideBySide

end BenchCharts.Chart

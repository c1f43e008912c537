import BenchCharts.Canvas.Legend
import BenchCharts.Canvas.Plot
import BenchCharts.Chart.Category
import BenchCharts.Style.Entry

/-!
Grouped bar charts: one group of hatched bars for each category, with a bar of every backend and
its error. A bar that is not there leaves a gap.
-/
namespace BenchCharts.Chart

open Canvas (Area CanvasSize Element LegendEntry Mesh Patch Pen Pixel Plot Sketch)
open BenchCharts.Geometry (AxisRange)
open Style (Entry)

structure Bar (α : Type) where
  value : α
  /-- Half the length of the error bar. -/
  error : Option α
  deriving Repr

/-- The bars of one backend by category. -/
structure BarSeries (α : Type) where
  style : Entry
  /-- Only series with a label are in the legend. -/
  label : Option String
  bars : List (Option (Bar α))
  deriving Repr

structure Grouped (α : Type) where
  categories : List String
  xDescription : String
  yDescription : String
  /-- In units of categories. -/
  barWidth : α
  /-- From zero to the greatest value if not given. -/
  yRange : Option (AxisRange α)
  series : List (BarSeries α)
  deriving Repr

/-- The upper end of a bar's error. -/
def Bar.top {α : Type} [Quantity α] (b : Bar α) : α := b.value + b.error.getD 0

namespace Grouped

section
variable {α : Type} [Quantity α]

/-- The bars of all series that are there. -/
def bars (c : Grouped α) : List (Bar α) := c.series.flatMap fun s => s.bars.filterMap id

def shownRange (c : Grouped α) : AxisRange α :=
  c.yRange.getD (zeroBased (greatest? (c.bars.map Bar.top)))

end

def mesh (c : Grouped Float) (pen : Pen) : Mesh :=
  ⟨none, 5, some c.xDescription, some c.yDescription, pen.fontSize⟩

def patch (style : Entry) : Patch := ⟨some style.color, style.hatch, some .black⟩

def legend (c : Grouped Float) : List LegendEntry :=
  c.series.filterMap fun s => s.label.map fun label => ⟨label, .patch (patch s.style)⟩

/-- The bars of a series that are there, with their categories. -/
def present (c : Grouped Float) (s : BarSeries Float) : List (Nat × Bar Float) :=
  (s.bars.take c.categories.length).zipIdx.filterMap fun (bar, category) =>
    bar.map fun b => (category, b)

def plot (c : Grouped Float) (a : Area) : Sketch Plot :=
  Plot.layout a ⟨⟨10, 10, 10, 20⟩, 80, 64⟩ ⟨categoryRange c.categories.length, .linear⟩
    ⟨c.shownRange, .linear⟩

def barElements (plot : Plot) (style : Entry) (edges : Float × Float) (bar : Bar Float) :
    Sketch (List Element) := do
  (patch style).elements (← plot.place (edges.1, 0)) (← plot.place (edges.2, bar.value))

/-- Two caps, the stem between them and a ring at the value. -/
def errorElements (plot : Plot) (center : Float) (bar : Bar Float) : Sketch (List Element) := do
  match bar.error with
  | none => return []
  | some error =>
      let low ← plot.place (center, bar.value - error)
      let middle ← plot.place (center, bar.value)
      let high ← plot.place (center, bar.value + error)
      let cap (p : Pixel) : Sketch Element :=
        return .line (← Canvas.fit (p.1 - 3), p.2) (← Canvas.fit (p.1 + 3), p.2)
          .black
      return [← cap low, ← cap high, .line low high .black, .circle middle 3 .black false]

def seriesElements (c : Grouped Float) (plot : Plot) (s : BarSeries Float) (index : Nat) :
    Sketch (List Element) := do
  let count := c.series.length
  let center (category : Nat) : Float :=
    wordToFloat category + Geometry.groupOffset index count c.barWidth
  let bars ← (c.present s).flatMapM fun (category, bar) =>
    barElements plot s.style (barEdges category index count c.barWidth) bar
  let errors ← (c.present s).flatMapM fun (category, bar) =>
    errorElements plot (center category) bar
  return bars ++ errors

def categoryLabels (root : Area) (plot : Plot) (categories : List String) (pen : Pen) :
    Sketch (List Element) :=
  categories.zipIdx.flatMapM fun (category, i) => do
    let below ← plot.pixel (wordToFloat i, plot.y.range.min)
    Canvas.labelBelow root category below pen.fontSize

def elements (c : Grouped Float) (size : CanvasSize) (pen : Pen) : Sketch (List Element) := do
  let root := Area.ofSize size
  let plot ← c.plot root
  let mesh ← plot.meshElements (c.mesh pen)
  let bars ← c.series.zipIdx.flatMapM fun (s, i) => c.seriesElements plot s i
  let frame ← plot.frame
  let labels ← categoryLabels root plot c.categories pen
  let legend ←
    if c.legend.isEmpty then pure []
    else Canvas.Legend.elements plot.area c.legend pen.fontSize true
  return mesh ++ bars ++ [frame] ++ labels ++ legend

end Grouped

end BenchCharts.Chart

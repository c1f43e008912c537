import BenchCharts.Chart.Grouped
import BenchCharts.Chart.Measure
import BenchCharts.Series.Recovery

/-!
Stacked bars of recovery times, grouped by database, with one bar for each backend. A band over
the plot holds two legends, one for the colors of the backends and one for the hatches of the
phases.
-/
namespace BenchCharts.Chart

open Canvas (Area CanvasSize Element LegendEntry Mesh Patch Pen Plot Sketch)
open BenchCharts.Geometry (AxisRange)
open Series (PhaseSegment RecoveryPhase RecoveryTrace)
open Style (Entry Hatch)

/-- The recoveries of one backend by category. -/
structure StackedGroup (α : Type) where
  style : Entry
  traces : List (Option (RecoveryTrace α))
  deriving Repr

structure Stacked (α : Type) where
  categories : List String
  yDescription : String
  barWidth : α
  /-- The phases of the legend; others have no hatch. -/
  hatches : List (RecoveryPhase × Hatch)
  groups : List (StackedGroup α)
  deriving Repr

namespace Stacked

section
variable {α : Type} [Quantity α]

/-- The recoveries of all backends that are there. -/
def traces (c : Stacked α) : List (RecoveryTrace α) :=
  c.groups.flatMap fun g => g.traces.filterMap id

def shownRange (c : Stacked α) : AxisRange α :=
  zeroBased (greatest? (c.traces.flatMap fun t => t.segments.map (·.top)))

end

def hatchOf (c : Stacked Float) (phase : RecoveryPhase) : Hatch :=
  (c.hatches.lookup phase).getD .none

def backendLegend (c : Stacked Float) : List LegendEntry :=
  c.groups.map fun g => ⟨g.style.displayName, .patch ⟨some g.style.color, .none, none⟩⟩

def phaseLegend (c : Stacked Float) : List LegendEntry :=
  c.hatches.map fun (phase, hatch) => ⟨phase.label, .patch ⟨some .white, hatch, some .black⟩⟩

def mesh (c : Stacked Float) (pen : Pen) : Mesh :=
  ⟨none, 5, none, some c.yDescription, pen.fontSize⟩

/-- The rows of the longer legend. -/
def rows (c : Stacked Float) : Nat := max c.groups.length c.hatches.length

/-- A legend without a box, unless it is empty. -/
def legendElements (a : Area) (entries : List LegendEntry) (pen : Pen) : Sketch (List Element) := do
  if entries.isEmpty then return []
  else
    let holder ← Plot.layout a ⟨.all marginTop, 0, 0⟩ ⟨⟨0, 1⟩, .linear⟩ ⟨⟨0, 1⟩, .linear⟩
    Canvas.Legend.elements holder.area entries pen.fontSize false

def plot (c : Stacked Float) (a : Area) : Sketch Plot :=
  Plot.layout a ⟨⟨0, 0, 0, 20⟩, 80, xLabels⟩ ⟨categoryRange c.categories.length, .linear⟩
    ⟨c.shownRange, .linear⟩

def segmentElements (c : Stacked Float) (plot : Plot) (style : Entry) (edges : Float × Float)
    (s : PhaseSegment Float) : Sketch (List Element) := do
  let patch : Patch := ⟨some style.color, c.hatchOf s.phase, some .black⟩
  patch.elements (← plot.place (edges.1, s.bottom)) (← plot.place (edges.2, s.top))

def groupElements (c : Stacked Float) (plot : Plot) (g : StackedGroup Float) (index : Nat) :
    Sketch (List Element) :=
  (g.traces.take c.categories.length).zipIdx.flatMapM fun (trace, category) =>
    match trace with
    | none => return []
    | some t => t.segments.flatMapM
        (c.segmentElements plot g.style (barEdges category index c.groups.length c.barWidth))

/-- The chart under a band of a given height. -/
def elements (c : Stacked Float) (size : CanvasSize) (pen : Pen) (height : Nat) :
    Sketch (List Element) := do
  let (band, main) ← (Area.ofSize size).splitBelow height
  let (left, right) ← band.splitBeside (size.width / 2)
  let backends ← legendElements left c.backendLegend pen
  let phases ← legendElements right c.phaseLegend pen
  let plot ← c.plot main
  let mesh ← plot.meshElements (c.mesh pen)
  let bars ← c.groups.zipIdx.flatMapM fun (g, i) => c.groupElements plot g i
  let frame ← plot.frame
  let labels ← Grouped.categoryLabels main plot c.categories pen
  return backends ++ phases ++ mesh ++ bars ++ [frame] ++ labels

end Stacked

end BenchCharts.Chart

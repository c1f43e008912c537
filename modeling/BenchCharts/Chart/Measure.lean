import BenchCharts.Canvas.Size

/-!
Sizes of the parts of a chart that depend on the canvas or the letters. They are numbers of 32 bits
without a sign, and every number on the way to them must be one too.
-/
namespace BenchCharts.Chart

open Canvas (Pen)

/-- A chart that cannot be drawn: one of its sizes or one of its pixels is out of range. -/
inductive MeasureError
  | tooLarge
  | tooFar
  deriving DecidableEq, Repr

def MeasureError.message : MeasureError → String
  | tooLarge => "the parts of the chart are too large to be measured"
  | tooFar => "a place in the chart is too far away to be drawn"

def measured (n : Nat) : Except MeasureError Nat :=
  if n < UInt32.size then .ok n else .error .tooLarge

namespace BrokenAxis

def marginTop : Nat := 10

/-- Room for the labels of the x axis. -/
def xLabels : Nat := 64

/-- Vertical distance between the panels. -/
def gap : Nat := 14

/-- Where a canvas is split so that both plots come out equally high. -/
def splitHeight (height : Nat) : Except MeasureError Nat := do
  let above ← measured (marginTop + gap)
  let around ← measured (above + xLabels)
  let panel := (height - around) / 2
  let bottom ← measured (marginTop + panel)
  measured (bottom + gap / 2)

end BrokenAxis

namespace SideBySide

/-- Room for labels of several lines under the bars. -/
def labelRoom (lines : Nat) (pen : Pen) : Except MeasureError Nat := do
  let height ← measured (lines % UInt32.size * pen.fontSize)
  let spaced ← measured (height * 6)
  measured (24 + spaced / 5)

/-- Room above the bars. -/
def marginTop (pen : Pen) : Except MeasureError Nat := measured (10 + pen.fontSize)

end SideBySide

namespace Stacked

def marginTop : Nat := 8

/-- Room for the labels of the x axis. -/
def xLabels : Nat := 40

/-- The height of the legends: as many rows as they have, and at least a fifth of the plot. -/
def bandHeight (height rows : Nat) (pen : Pen) : Except MeasureError Nat := do
  let letters ← measured (pen.fontSize * 5)
  let row ← measured (letters / 4 + 4)
  let all ← measured (rows % UInt32.size * row)
  let legend ← measured (marginTop * 2 + all)
  return max legend ((height - (marginTop + xLabels)) / 5)

end Stacked

end BenchCharts.Chart

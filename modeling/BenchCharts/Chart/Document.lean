import BenchCharts.Canvas.Svg
import BenchCharts.Chart.BrokenAxis
import BenchCharts.Chart.LogLog
import BenchCharts.Chart.SideBySide
import BenchCharts.Chart.Stacked
import BenchCharts.Chart.TimeSeries
import BenchCharts.Files.Tree

/-!
Charts as files. A chart is drawn on a white canvas as a whole before its file is written, so one
that cannot be drawn leaves no file and no directory behind.
-/
namespace BenchCharts

open Canvas (CanvasSize Element Pen Sketch)
open Chart (BrokenAxis Grouped LogLog SideBySide Stacked Timeline)
open Files (Path Tree)

inductive Chart
  | broken (c : BrokenAxis)
  | logLog (c : LogLog)
  | grouped (c : Grouped Float)
  | sideBySide (c : SideBySide)
  | stacked (c : Stacked Float)
  | timeline (c : Timeline)
  deriving Repr

namespace Chart

/-- The sketch of a chart, if its sizes are in range. -/
def sketch (c : Chart) (size : CanvasSize) (pen : Pen) :
    Except MeasureError (Sketch (List Element)) := do
  match c with
  | broken c => return c.elements size pen (← BrokenAxis.splitHeight size.height)
  | logLog c => return c.elements size pen
  | grouped c => return c.elements size pen
  | sideBySide c => return c.elements size pen (← c.rooms pen)
  | stacked c => return c.elements size pen (← Stacked.bandHeight size.height c.rows pen)
  | timeline c => return c.elements size pen

/-- What a chart comes to on a canvas. -/
abbrev Drawing := Chart → CanvasSize → Pen → Except MeasureError (List Element)

/-- Draws a chart whose sizes and pixels are all in range. -/
def elements : Drawing := fun c size pen => do
  match (← c.sketch size pen).checked with
  | some elements => return elements
  | none => throw .tooFar

/-- Draws a chart whose sizes are in range, however far away its pixels are. -/
def unlimited : Drawing := fun c size pen => return (← c.sketch size pen).unlimited

/-- Elements on a white canvas. -/
def document (size : CanvasSize) (elements : List Element) : String :=
  Canvas.Svg.document size (Canvas.background size :: elements)

inductive FileError
  | undrawable (cause : MeasureError)
  | noDirectory (path : Path)
  | unwritable (path : Path)
  deriving DecidableEq, Repr

def FileError.message : FileError → String
  | undrawable cause => cause.message
  | noDirectory path => "creating directory " ++ Text.quoted path.text
  | unwritable path => "writing chart to " ++ Text.quoted path.text

/-- Makes the directories above a path. -/
def makeParent (t : Tree) (path : Path) : Tree × Except FileError Unit :=
  match path.parent? with
  | none => (t, .ok ())
  | some directory =>
      match t.makeDirectories directory with
      | (t, .ok _) => (t, .ok ())
      | (t, .error _) => (t, .error (.noDirectory directory))

/-- Writes a document together with the directories above it. -/
def writeDocument (t : Tree) (path : Path) (text : String) : Tree × Except FileError Unit :=
  match makeParent t path with
  | (t, .error e) => (t, .error e)
  | (t, .ok _) =>
      match t.write path text with
      | .error _ => (t, .error (.unwritable path))
      | .ok t => (t, .ok ())

/-- Writes a drawing, unless there is none. -/
def writeDrawing (t : Tree) (path : Path) (size : CanvasSize)
    (drawing : Except MeasureError (List Element)) : Tree × Except FileError Unit :=
  match drawing with
  | .error e => (t, .error (.undrawable e))
  | .ok elements => writeDocument t path (document size elements)

def write (c : Chart) (t : Tree) (path : Path) (size : CanvasSize) (pen : Pen) :
    Tree × Except FileError Unit :=
  writeDrawing t path size (c.elements size pen)

theorem write_of_undrawable (c : Chart) (t : Tree) (path : Path) (size : CanvasSize)
    (pen : Pen) (e : MeasureError) (h : c.elements size pen = .error e) :
    c.write t path size pen = (t, .error (.undrawable e)) := by
  simp [write, writeDrawing, h]

end Chart

end BenchCharts

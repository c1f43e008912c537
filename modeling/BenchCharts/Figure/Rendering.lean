import BenchCharts.Figure.Artifact

/-!
Figures as files below the directory of figures. The styles that a figure needs are settled before
anything is written, and its charts are written one after the other until one fails. When all
figures are drawn, a failing one does not stop the others, except that nothing comes after a chart
that cannot be drawn.
-/
namespace BenchCharts.Figure

open Chart (MeasureError)
open Files (Path Tree)
open Style (StyleError)

inductive RenderError
  | style (cause : StyleError)
  | file (cause : Chart.FileError)
  deriving DecidableEq, Repr

def RenderError.message : RenderError → String
  | style cause => cause.message
  | file cause => cause.message

/-- The message of an error among those of all figures. -/
def RenderError.messageFor (kind : Kind) (e : RenderError) : String :=
  "rendering figure " ++ kind.name ++ ": " ++ e.message

namespace Study

def outputPath (s : Study) (a : Artifact) : Path := s.layout.figurePath a.name

def write (s : Study) (t : Tree) (a : Artifact) : Tree × Except Chart.FileError Unit :=
  Chart.writeDrawing t (s.outputPath a) a.size (s.drawing a.chart a.size s.config.pen)

def writeAll (s : Study) (t : Tree) : List Artifact → Tree × Except RenderError (List Path)
  | [] => (t, .ok [])
  | a :: rest =>
      match s.write t a with
      | (t, .error e) => (t, .error (.file e))
      | (t, .ok _) =>
          match writeAll s t rest with
          | (t, .error e) => (t, .error e)
          | (t, .ok paths) => (t, .ok (s.outputPath a :: paths))

/-- Draws a figure, and lists the files written. -/
def render (s : Study) (t : Tree) (kind : Kind) : Tree × Except RenderError (List Path) :=
  match s.data t kind with
  | .error e => (t, .error (.style e))
  | .ok d =>
      match s.artifacts d with
      | .error e => (t, .error (.style e))
      | .ok artifacts => s.writeAll t artifacts

abbrev Result := Kind × Except RenderError (List Path)

/-- Draws figures one after the other. A chart that cannot be drawn breaks the run off, and with it
all results are lost. Any other error is only the result of its figure. -/
def renderEach (s : Study) (t : Tree) : List Kind → Tree × Except MeasureError (List Result)
  | [] => (t, .ok [])
  | kind :: rest =>
      match s.render t kind with
      | (t, .error (.file (.undrawable e))) => (t, .error e)
      | (t, result) =>
          match renderEach s t rest with
          | (t, .error e) => (t, .error e)
          | (t, .ok results) => (t, .ok ((kind, result) :: results))

def renderAll (s : Study) (t : Tree) : Tree × Except MeasureError (List Result) :=
  s.renderEach t Kind.all

theorem render_of_unknown (s : Study) (t : Tree) (kind : Kind) (e : StyleError)
    (h : s.data t kind = .error e) : s.render t kind = (t, .error (.style e)) := by
  simp [render, h]

end Study

end BenchCharts.Figure

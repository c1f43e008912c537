import BenchCharts.Chart.Document
import BenchCharts.LogSize.Record

/-!
The chart of a record: one line for each log, in the order of their names.
-/
namespace BenchCharts.LogSize

open Canvas (CanvasSize Pen)
open Chart (TimeSeries)
open Files (Path Tree)

def Record.timeSeries (r : Record) : List TimeSeries :=
  r.logs.entries.map fun (name, s) => ⟨name, s.points⟩

def Record.chart (r : Record) : Chart := .timeline ⟨"time (s)", "size (MB)", r.timeSeries⟩

structure DrawError where
  path : Path
  cause : Chart.FileError
  deriving DecidableEq, Repr

def DrawError.message (e : DrawError) : String :=
  "drawing log sizes to " ++ Text.quoted e.path.text ++ ": " ++ e.cause.message

def Record.draw (r : Record) (t : Tree) (path : Path) (size : CanvasSize) :
    Tree × Except DrawError Unit :=
  match r.chart.write t path size .standard with
  | (t, .ok _) => (t, .ok ())
  | (t, .error cause) => (t, .error ⟨path, cause⟩)

theorem Record.names_timeSeries (r : Record) : r.timeSeries.map (·.name) = r.logs.keys := by
  simp [timeSeries, SortedMap.keys, Function.comp_def]

end BenchCharts.LogSize

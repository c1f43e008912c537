import BenchCharts.Canvas.Size
import BenchCharts.Format.Decoding
import BenchCharts.Format.Value
import BenchCharts.Geometry.Scale
import BenchCharts.Results.Configuration
import BenchCharts.Results.SizeRows
import BenchCharts.Series.Recovery
import BenchCharts.Series.ThreadRange
import BenchCharts.Style.Entry

/-!
The parts of which configurations are made, each with its record in documents: ranges, sizes, pens
and the looks of backends. A record admits no member besides its fields.
-/
namespace BenchCharts.Config

open Canvas (CanvasSize Pen)
open Format (Decoded Field Source Value)
open BenchCharts.Geometry (AxisRange)
open Results (RowFormat Workload)
open Series (RecoveryPhase ThreadRange)
open Style (BackendId Color Entry Hatch LineStyle Marker)

section
variable {ν : Type} [Source ν]

def readBackend (node : ν) : Decoded BackendId := (Source.text node).map BackendId.mk

def readBackends : ν → Decoded (List BackendId) := Format.readList readBackend

def readHatch (node : ν) : Decoded Hatch := (Source.text node).map Hatch.mk

def readColor : ν → Decoded Color := Format.readMeaning Color.parse? Color.invalidMessage

def readMarker : ν → Decoded Marker := Format.readChoice Marker.named

def readLineStyle : ν → Decoded LineStyle := Format.readChoice LineStyle.named

def readRowFormat : ν → Decoded RowFormat := Format.readChoice RowFormat.named

def readPhase : ν → Decoded RecoveryPhase := Format.readChoice RecoveryPhase.named

def readWorkload : ν → Decoded Workload :=
  Format.readMeaning Workload.parse? Workload.invalidMessage

def rangeFields : List (Field ν (AxisRange Float)) :=
  [.of "min" Source.real fun r min => { r with min },
    .of "max" Source.real fun r max => { r with max }]

def readRange : ν → Decoded (AxisRange Float) := Format.readRecord rangeFields .refuse default

def threadRangeFields : List (Field ν (Nat × Nat)) :=
  [.of "min" Format.readHalfWord fun r min => (min, r.2),
    .of "max" Format.readHalfWord fun r max => (r.1, max)]

/-- A range of thread counts, whose lower end may not lie above the upper one. -/
def readThreadRange (node : ν) : Decoded ThreadRange := do
  let (min, max) ← Format.readRecord threadRangeFields .refuse default node
  match ThreadRange.make min max with
  | .ok range => return range
  | .error e => .error (.refused e.message)

def canvasFields : List (Field ν CanvasSize) :=
  [.of "width" Format.readHalfWord fun c width => { c with width },
    .of "height" Format.readHalfWord fun c height => { c with height }]

def readCanvas : ν → Decoded CanvasSize := Format.readRecord canvasFields .refuse default

def penFields : List (Field ν Pen) :=
  [.of "line_width" Format.readHalfWord fun p lineWidth => { p with lineWidth },
    .of "marker_size" Format.readHalfWord fun p markerSize => { p with markerSize },
    .of "font_size" Format.readHalfWord fun p fontSize => { p with fontSize }]

def readPen : ν → Decoded Pen := Format.readRecord penFields .refuse default

def entryFields : List (Field ν Entry) :=
  [.of "id" readBackend fun e id => { e with id },
    .of "display_name" Source.text fun e displayName => { e with displayName },
    .optional "bar_label" (Format.readOptional Source.text) fun e barLabel => { e with barLabel },
    .optional "sweep_label" (Format.readOptional Source.text) fun e sweepLabel =>
      { e with sweepLabel },
    .of "color" readColor fun e color => { e with color },
    .of "marker" readMarker fun e marker => { e with marker },
    .optional "hatch" readHatch fun e hatch => { e with hatch },
    .of "linestyle" readLineStyle fun e lineStyle => { e with lineStyle },
    .optional "group_side" (Source.natural 255) fun e groupSide => { e with groupSide }]

def readEntry : ν → Decoded Entry := Format.readRecord entryFields .refuse default

end

def writeBackend (id : BackendId) : Value := .text id.text

def writeBackends : List BackendId → Value := .ofList writeBackend

def writeRange (r : AxisRange Float) : Value := .record [("min", .real r.min), ("max", .real r.max)]

def writeThreadRange (r : ThreadRange) : Value :=
  .record [("min", .natural r.min), ("max", .natural r.max)]

def writeCanvas (c : CanvasSize) : Value :=
  .record [("width", .natural c.width), ("height", .natural c.height)]

def writePen (p : Pen) : Value :=
  .record [("line_width", .natural p.lineWidth), ("marker_size", .natural p.markerSize),
    ("font_size", .natural p.fontSize)]

def writeEntry (e : Entry) : Value :=
  .record [("id", writeBackend e.id), ("display_name", .text e.displayName),
    ("bar_label", .ofOption .text e.barLabel), ("sweep_label", .ofOption .text e.sweepLabel),
    ("color", .text e.color.text), ("marker", .text e.marker.name), ("hatch", .text e.hatch.text),
    ("linestyle", .text e.lineStyle.name), ("group_side", .natural e.groupSide)]

def writeMap {α : Type} (write : α → Value) (m : SortedMap α) : Value :=
  .record (m.entries.map fun (name, a) => (name, write a))

end BenchCharts.Config

import BenchCharts.Config.Parts
import BenchCharts.Figure.Data

/-!
The data of a figure as a document: a record with a single member, which is named for the kind of
the figure.
-/
namespace BenchCharts.Figure

open Format (Value)
open Results (Configuration Report)
open Series (Point PointSeries RecoveryTrace SizeBucket SizeSeries)

def writeConfiguration : Configuration → Value
  | .threads n => .record [("threads", .natural n)]
  | .workload w => .record [("workload", .text w.text)]
  | .size n => .record [("size", .natural n)]

def writePoint (p : Point Float) : Value :=
  .record [("backend_id", Config.writeBackend p.backend),
    ("configuration", writeConfiguration p.configuration), ("num_trials", .natural p.trials),
    ("mean_latency_us", .ofOption .real p.latency),
    ("mean_throughput", .ofOption .real p.throughput),
    ("stddev_throughput", .ofOption .real p.deviation)]

def writeReport (r : Report) : Value :=
  .record [("loaded", .natural r.loaded), ("absent", .natural r.absent),
    ("malformed", .natural r.malformed)]

def writePointSeries (s : PointSeries) : Value :=
  .record [("backend_id", Config.writeBackend s.backend), ("points", .ofList writePoint s.points),
    ("report", writeReport s.report)]

def writeDatabaseSeries (s : DatabaseSeries) : Value :=
  .record [("database", .text s.database), ("series", .ofList writePointSeries s.series)]

def writeBucket (b : SizeBucket) : Value :=
  .record [("size", .natural b.size), ("mean_latency_us", .real b.latency),
    ("num_rows", .natural b.rows)]

def writeSizes (s : SizeSeries) : Value := .record [("buckets", .ofList writeBucket s.buckets)]

def writeNamedSizes (s : NamedSizes) : Value :=
  .record [("backend_id", Config.writeBackend s.backend), ("series", .ofOption writeSizes s.sizes)]

def writeTrace (t : RecoveryTrace Float) : Value :=
  .record [("phases", .record (t.toList.map fun (phase, time) => (phase.name, .real time)))]

def writeRecoveryEntry (e : RecoveryEntry) : Value :=
  .record [("backend_id", Config.writeBackend e.backend), ("database", .text e.database),
    ("trace", .ofOption writeTrace e.trace)]

def Data.kind : Data → Kind
  | insertOnly _ => .insertOnly
  | sqliteInsert _ => .sqliteInsert
  | ycsb _ => .ycsb
  | rawWrite _ => .rawWrite
  | rawRead _ => .rawRead
  | recovery _ => .recovery

def Data.content : Data → Value
  | insertOnly databases => .ofList writeDatabaseSeries databases
  | sqliteInsert database => writeDatabaseSeries database
  | ycsb databases => .ofList writeDatabaseSeries databases
  | rawWrite lines => .ofList writeNamedSizes lines
  | rawRead lines => .ofList writeNamedSizes lines
  | recovery entries => .ofList writeRecoveryEntry entries

def Data.summary (d : Data) : Value := .record [(d.kind.tag, d.content)]

theorem Study.kind_read (s : Study) (t : Files.Tree) (kind : Kind) :
    (s.read t kind).kind = kind := by
  cases kind <;> rfl

end BenchCharts.Figure

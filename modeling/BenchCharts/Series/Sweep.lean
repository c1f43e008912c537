import BenchCharts.Results.Trials
import BenchCharts.Series.Point
import BenchCharts.Series.Recovery
import BenchCharts.Series.SizeBuckets
import BenchCharts.Series.ThreadRange

/-!
Series over one independent variable. Configurations are taken in the order given; one without any
trial that could be read has no point, and the reports of all of them are added up.
-/
namespace BenchCharts.Series

open Files (Tree)
open Results (Configuration Layout Report RowFormat Transfer TrialPhase TrialQuery Workload)
open Style (BackendId)

structure PointSeries where
  backend : BackendId
  points : List (Point Float)
  report : Report
  deriving Repr

def PointSeries.ofTree (layout : Layout) (t : Tree) (database : String) (phase : TrialPhase)
    (backend : BackendId) (configurations : List Configuration) (trials : Nat) : PointSeries :=
  let read := configurations.map fun configuration =>
    Results.readTrials layout t { database, phase, backend, configuration, trials }
  { backend
    points := read.filterMap fun (samples, _) => Point.ofSamples samples
    report := Report.total (read.map fun (_, report) => report) }

/-- The thread counts of a sweep; those outside the range are not read at all. -/
def selectThreads (range : Option ThreadRange) (threads : List Nat) : List Nat :=
  match range with
  | some range => range.select threads
  | none => threads

/-- Loading with different numbers of threads. -/
def threadSweep (layout : Layout) (t : Tree) (database : String) (backend : BackendId)
    (threads : List Nat) (range : Option ThreadRange) (trials : Nat) : PointSeries :=
  .ofTree layout t database .load backend ((selectThreads range threads).map .threads) trials

/-- Running different workloads. -/
def workloadSweep (layout : Layout) (t : Tree) (database : String) (backend : BackendId)
    (workloads : List Workload) (trials : Nat) : PointSeries :=
  .ofTree layout t database .run backend (workloads.map .workload) trials

def sizeSweep (layout : Layout) (t : Tree) (source : BackendId) (transfer : Transfer)
    (format : RowFormat) : Option SizeSeries :=
  (Results.readSizeRows layout t source transfer format).map fun r => .ofRows r.rows

def recoveryTrace (layout : Layout) (t : Tree) (database : String) (backend : BackendId) :
    Option (RecoveryTrace Float) :=
  (Results.readPhaseDeltas layout t database backend).map .ofDeltas

end BenchCharts.Series

import BenchCharts.Results.Layout
import BenchCharts.Results.Measurement
import BenchCharts.Results.Outcome
import BenchCharts.Results.PhaseDeltas
import BenchCharts.Results.Sample
import BenchCharts.Results.SizeRows

/-!
Reading result files. The trials of one configuration are numbered from one; each is read on its
own, and only those that could be read are handed on, in their order.
-/
namespace BenchCharts.Results

open Files (Tree)
open Style (BackendId)

/-- Trials of one backend and configuration. -/
structure TrialQuery where
  database : String
  phase : TrialPhase
  backend : BackendId
  configuration : Configuration
  trials : Nat
  deriving Repr

inductive TrialFault
  | noPath (cause : LayoutError)
  | file (fault : FileFault MeasurementError)
  deriving Repr

def trialOutcome (layout : Layout) (t : Tree) (query : TrialQuery) (trial : Nat) :
    Outcome TrialFault (Sample Float) :=
  match layout.trialPath query.database query.phase query.backend.text query.configuration
    trial with
  | .error cause => .malformed (.noPath cause)
  | .ok path =>
      ((Outcome.ofFile t path (Measurement.parse query.phase)).mapCause .file).map fun m =>
        { backend := query.backend
          database := query.database
          configuration := query.configuration
          trial
          latency := m.latency
          throughput := some m.throughput }

def trialOutcomes (layout : Layout) (t : Tree) (query : TrialQuery) :
    List (Outcome TrialFault (Sample Float)) :=
  (List.range query.trials).map fun n => trialOutcome layout t query (n + 1)

def readTrials (layout : Layout) (t : Tree) (query : TrialQuery) : List (Sample Float) × Report :=
  let outcomes := trialOutcomes layout t query
  (outcomes.filterMap Outcome.value?, Report.total (outcomes.map Outcome.report))

/-- The rows of a size sweep. -/
def readSizeRows (layout : Layout) (t : Tree) (backend : BackendId) (transfer : Transfer)
    (format : RowFormat) : Option SizeRows :=
  (Outcome.ofFile t (layout.sizePath backend.text transfer) fun text =>
    (Except.ok (SizeRows.parse format text) : Except RowError SizeRows)).value?

/-- The durations of the phases of a recovery. -/
def readPhaseDeltas (layout : Layout) (t : Tree) (database : String) (backend : BackendId) :
    Option PhaseDeltas :=
  (Outcome.ofFile t (layout.recoveryPath database backend.text) PhaseDeltas.parse).value?

end BenchCharts.Results

import BenchCharts.Files.Path
import BenchCharts.Results.Configuration

/-!
Where result files lie below the base directory of the results. Each kind of record has a template
of its own, and figures go to a directory beside the results. Trial records exist for load trials
by thread count and for run trials by workload, and for nothing else.
-/
namespace BenchCharts.Results

open Files (Path)

structure Layout where
  base : Path
  deriving Repr

inductive LayoutError
  | noRecords (phase : TrialPhase) (configuration : Configuration)
  deriving DecidableEq, Repr

def LayoutError.message : LayoutError → String
  | noRecords phase configuration =>
      "no " ++ phase.name ++ " records exist for configuration " ++ configuration.shown

namespace Layout

/-- The name of a trial's file. -/
def trialName (database : String) (phase : TrialPhase) (backend : String)
    (configuration : Configuration) (trial : Nat) : Except LayoutError String :=
  match phase, configuration with
  | .load, .threads n =>
      .ok (database ++ "_load_" ++ backend ++ "_th" ++ toString n ++ "_trail" ++ toString trial ++
        ".yml")
  | .run, .workload w =>
      .ok (database ++ "_workload" ++ w.text ++ "_" ++ backend ++ "_trail" ++ toString trial ++
        ".yml")
  | phase, configuration => .error (.noRecords phase configuration)

def trialPath (layout : Layout) (database : String) (phase : TrialPhase) (backend : String)
    (configuration : Configuration) (trial : Nat) : Except LayoutError Path :=
  (trialName database phase backend configuration trial).map fun name =>
    (((layout.base.join database).join phase.name).join backend).join name

def sizePath (layout : Layout) (backend : String) (transfer : Transfer) : Path :=
  (layout.base.join "raw").join (backend ++ "_" ++ transfer.name ++ ".csv")

def recoveryPath (layout : Layout) (database backend : String) : Path :=
  ((layout.base.join "recover").join database).join (backend ++ ".csv")

def figureDirectory (layout : Layout) : Path := layout.base.join "fig"

def figurePath (layout : Layout) (name : String) : Path := layout.figureDirectory.join name

end Layout

end BenchCharts.Results

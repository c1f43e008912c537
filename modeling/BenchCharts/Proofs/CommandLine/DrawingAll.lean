import BenchCharts.Proofs.CommandLine.Commands
import BenchCharts.Proofs.Figure.Independence

/-!
All figures in one run against each of them in a run of its own. The one run prints what the runs
that succeed print, and succeeds if they all do. A chart that cannot be drawn is the exception: it
breaks the run off, and with it the figures that could be drawn.
-/
namespace BenchCharts.CommandLine.BenchFigures

open Figure (Kind RenderError Study)
open Figure.Study (BreaksOff)
open Files (Path Tree)

variable {s : Study} {t : Tree} {kind : Kind} {kinds : List Kind}

variable {flags : List String} {o : Options}

/-- An object in a configuration. -/
def object (members : String) : String := "\x7b" ++ members ++ "\x7d"

end BenchCharts.CommandLine.BenchFigures

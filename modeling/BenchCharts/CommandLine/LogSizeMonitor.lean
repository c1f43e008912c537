import BenchCharts.CommandLine.Finish
import BenchCharts.CommandLine.Verbosity
import BenchCharts.LogSize.Drawing

/-!
The program that records the sizes of log files while a benchmark runs, and draws them afterwards.
What was seen of a directory is recorded by whoever runs the program, and saved when it ends.
-/
namespace BenchCharts.CommandLine.LogSizeMonitor

open Canvas (CanvasSize)
open Files (Path Tree)
open LogSize (Record)

inductive Command
  /-- Watches a directory and saves the record. -/
  | watch (directory output : Path)
  /-- Draws a saved record. -/
  | draw (record output : Path)
  deriving DecidableEq, Repr

structure Options where
  reading : Reading
  command : Command
  deriving Repr

def commands : List String := ["mon", "draw", "help"]

def grammar : Grammar := ⟨reportSwitches, [], [], commands⟩

def values (command : String) : List String :=
  if command = "mon" then ["dir", "output"] else ["record", "output"]

def parse (arguments : List String) : Except UsageError Options := do
  let (reading, command) ← grammar.scan .empty .start arguments
  match command with
  | none => .error (.missing "command")
  | some (name, rest) =>
      if name = "help" then .error (helpTopic commands rest)
      else
        let g : Grammar := ⟨[], [], values name, []⟩
        let (below, _) ← g.scan .empty .start rest
        g.check below
        grammar.check reading
        match below.values.reverse with
        | [first, second] =>
            return ⟨reading, if name = "mon" then .watch ⟨first⟩ ⟨second⟩
              else .draw ⟨first⟩ ⟨second⟩⟩
        | _ => .error (.missing "output")

def canvas : CanvasSize := ⟨640, 480⟩

def drawFile (t : Tree) (record output : Path) : Finish :=
  match Record.load t record with
  | .error e => .failure t e.message
  | .ok r =>
      match r.draw t output canvas with
      | (t, .ok _) => .success t ""
      | (t, .error e) => .failure t e.message

/-- Performs a command, given what was seen of the directory that it watches. -/
def perform (t : Tree) (seen : Record) : Command → Finish
  | .watch _ output =>
      match seen.save t output with
      | .ok t => .success t ""
      | .error e => .failure t e.message
  | .draw record output => drawFile t record output

def runOptions (t : Tree) (seen : Record) (o : Options) : Finish :=
  match Verbosity.ofReading? o.reading with
  | none => .failure t Verbosity.conflictMessage
  | some _ => perform t seen o.command

def help : String :=
  "usage: log-size-monitor [-v] [-d] [-q] mon DIRECTORY OUTPUT\n" ++
    "       log-size-monitor [-v] [-d] [-q] draw RECORD OUTPUT\n"

def run (t : Tree) (seen : Record) (arguments : List String) : Finish :=
  match parse arguments with
  | .error e => .usage t help e
  | .ok o => runOptions t seen o

end BenchCharts.CommandLine.LogSizeMonitor

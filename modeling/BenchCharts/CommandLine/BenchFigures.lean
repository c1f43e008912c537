import BenchCharts.CommandLine.Finish
import BenchCharts.CommandLine.Verbosity
import BenchCharts.Config.File
import BenchCharts.Figure.Rendering
import BenchCharts.Figure.Summary

/-!
The program that draws figures from a directory of results. Listing the formats of configuration
files needs no configuration; every other command loads it first. Drawing prints the files written,
and a summary prints the data of a figure instead of drawing it.
-/
namespace BenchCharts.CommandLine.BenchFigures

open Config (Figures FileFormat Lookup)
open Figure (Kind Study)
open Files (Path Tree)
open Style (StyleError)

inductive Command
  | draw (kind : Kind)
  | drawAll
  | summary (kind : Kind)
  | configFormats
  | configSave (path : Path)
  deriving DecidableEq, Repr

structure Options where
  reading : Reading
  config : Option Path
  results : Path
  command : Command
  deriving Repr

def commands : List String :=
  Kind.all.map (·.name) ++ ["all", "summary", "config-formats", "config-save", "help"]

def grammar : Grammar := ⟨reportSwitches, ["config", "results"], [], commands⟩

/-- The values that the arguments of a command must be. -/
def values (command : String) : List String :=
  if command = "summary" then ["figure"] else if command = "config-save" then ["path"] else []

def commandOf (command : String) (values : List String) : Except UsageError Command :=
  match command, values with
  | "all", _ => .ok .drawAll
  | "config-formats", _ => .ok .configFormats
  | "config-save", [path] => .ok (.configSave ⟨path⟩)
  | "summary", [figure] =>
      match Kind.ofName? figure with
      | some kind => .ok (.summary kind)
      | none => .error (.invalid "figure" figure)
  | name, _ =>
      match Kind.ofName? name with
      | some kind => .ok (.draw kind)
      | none => .error (.unexpected name)

def defaultResults : String := "data/result"

def parse (arguments : List String) : Except UsageError Options := do
  let (reading, command) ← grammar.scan .empty .start arguments
  match command with
  | none => .error (.missing "command")
  | some (name, rest) =>
      if name = "help" then .error (helpTopic commands rest)
      else
        let g : Grammar := ⟨[], [], values name, []⟩
        let (below, _) ← g.scan .empty .start rest
        g.check below
        grammar.check reading
        return {
          reading
          config := (reading.option? "config").map Files.Path.mk
          results := ⟨(reading.option? "results").getD defaultResults⟩
          command := ← commandOf name below.values.reverse }

inductive StartError
  | conflict
  | config (cause : Config.FileError)
  | style (cause : StyleError)
  deriving DecidableEq, Repr

def StartError.message : StartError → String
  | conflict => Verbosity.conflictMessage
  | config cause => cause.message
  | style cause => cause.message

def checkVerbosity (o : Options) : Except StartError Verbosity :=
  match Verbosity.ofReading? o.reading with
  | some v => .ok v
  | none => .error .conflict

/-- Without a configuration file the standard configuration is used. -/
def loadConfig (t : Tree) (o : Options) : Except StartError Figures :=
  match Config.figuresCodec.load t (some Config.figuresBase) o.config with
  | .error e => .error (.config e)
  | .ok (.found c) => .ok c
  | .ok (.nowhere _) => .ok .standard

def study (t : Tree) (o : Options) : Except StartError Study := do
  let config ← loadConfig t o
  let registry ← config.registry.mapError StartError.style
  return ⟨⟨o.results⟩, config, registry, Chart.elements⟩

def formatsText : String :=
  let line (entry : String × FileFormat) : String := entry.1 ++ ": " ++ entry.2.shown
  "These configuration file extensions / formats are supported:\n\n  " ++
    "\n  ".intercalate (FileFormat.extensions.map line) ++ "\n\n"

def pathLines (paths : List Path) : String := String.join (paths.map fun p => p.text ++ "\n")

/-- The files written by the figures that could be drawn; one that could not makes the run fail. -/
def report (t : Tree) (results : List Study.Result) : Finish :=
  let output := results.map fun (_, result) => match result with
    | .ok paths => pathLines paths
    | .error _ => ""
  let errors := results.map fun (kind, result) => match result with
    | .ok _ => ""
    | .error e => "error: " ++ e.messageFor kind ++ "\n"
  let failed := results.any fun (_, result) => !result.isOk
  ⟨t, if failed then 1 else 0, String.join output, String.join errors⟩

def drawAll (s : Study) (t : Tree) : Finish :=
  match s.renderAll t with
  | (t, .error e) => .brokenOff t e.message
  | (t, .ok results) => report t results

def draw (s : Study) (t : Tree) (kind : Kind) : Finish :=
  match s.render t kind with
  | (t, .ok paths) => .success t (pathLines paths)
  | (t, .error (.file (.undrawable e))) => .brokenOff t e.message
  | (t, .error e) => .failure t e.message

def perform (s : Study) (t : Tree) : Command → Finish
  | .draw kind => draw s t kind
  | .drawAll => drawAll s t
  | .summary kind =>
      match s.data t kind with
      | .ok d => .success t (Json.write d.summary ++ "\n")
      | .error e => .failure t e.message
  | .configFormats => .success t formatsText
  | .configSave path =>
      match Config.figuresCodec.saveTo t path s.config with
      | .ok t => .success t ""
      | .error e => .failure t e.message

def runOptions (t : Tree) (o : Options) : Finish :=
  match checkVerbosity o with
  | .error e => .failure t e.message
  | .ok _ =>
      if o.command = .configFormats then .success t formatsText
      else
        match study t o with
        | .error e => .failure t e.message
        | .ok s => perform s t o.command

def help : String :=
  "usage: bench-figures [-v] [-d] [-q] [--config FILE] [--results DIRECTORY] COMMAND\n" ++
    "commands: " ++ ", ".intercalate commands ++ "\n"

def run (t : Tree) (arguments : List String) : Finish :=
  match parse arguments with
  | .error e => .usage t help e
  | .ok o => runOptions t o

end BenchCharts.CommandLine.BenchFigures

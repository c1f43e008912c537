import BenchCharts.CommandLine.Arguments
import BenchCharts.Files.Tree

/-!
How a run of a program ends: with the files it leaves, what it printed, and an exit code, which is
1 for a failure, 2 for arguments that make no sense, and 101 for a run that was broken off.
-/
namespace BenchCharts.CommandLine

open Files (Tree)

structure Finish where
  tree : Tree
  exit : Nat
  output : String
  errors : String

namespace Finish

def success (t : Tree) (output : String) : Finish := ⟨t, 0, output, ""⟩

/-- A failure before anything was printed. -/
def failure (t : Tree) (message : String) : Finish := ⟨t, 1, "", "Error: " ++ message ++ "\n"⟩

/-- A run broken off where a number left its range, before anything was printed. -/
def brokenOff (t : Tree) (message : String) : Finish := ⟨t, 101, "", message ++ "\n"⟩

end Finish

def UsageError.message : UsageError → String
  | help => ""
  | unexpected argument => "unexpected argument " ++ argument
  | repeated name => name ++ " was given more than once"
  | missing name => name ++ " is missing"
  | invalid name value => "invalid value " ++ value ++ " for " ++ name

/-- Help is no failure, and is printed like any other answer. -/
def Finish.usage (t : Tree) (help : String) : UsageError → Finish
  | .help => .success t help
  | e => ⟨t, 2, "", "error: " ++ e.message ++ "\n\n" ++ help⟩

/-- The arguments of a help command may name one of the other commands. -/
def helpTopic (commands : List String) (arguments : List String) : UsageError :=
  match arguments with
  | [] => .help
  | [name] => if commands.contains name then .help else .unexpected name
  | _ :: extra :: _ => .unexpected extra

end BenchCharts.CommandLine

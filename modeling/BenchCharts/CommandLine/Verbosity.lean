import BenchCharts.CommandLine.Arguments

/-!
How much a program reports while it works. The levels are ordered; each shows what the ones below
it show. Switches choose a level, and being quiet cannot be asked for together with the others.
-/
namespace BenchCharts.CommandLine

inductive Verbosity
  | quiet
  | warn
  | info
  | debug
  deriving DecidableEq, Repr

namespace Verbosity

def rank : Verbosity → Nat
  | quiet => 0
  | warn => 1
  | info => 2
  | debug => 3

/-- Whether messages of a level are shown. -/
def shows (v level : Verbosity) : Bool := level.rank ≤ v.rank

def conflictMessage : String :=
  "option \x60--quiet\x60 conflicts with the options \x60--verbose\x60 and \x60--debug\x60"

/-- The level that the switches ask for, unless they contradict each other. -/
def choose? (verbose debug quiet : Bool) : Option Verbosity :=
  match verbose, debug, quiet with
  | false, false, false => some .warn
  | true, false, false => some .info
  | _, true, false => some .debug
  | false, false, true => some .quiet
  | _, _, true => none

def ofReading? (r : Reading) : Option Verbosity :=
  choose? (r.has "verbose") (r.has "debug") (r.has "quiet")

theorem choose?_eq_none_iff (verbose debug quiet : Bool) :
    choose? verbose debug quiet = none ↔ quiet = true ∧ (verbose = true ∨ debug = true) := by
  cases verbose <;> cases debug <;> cases quiet <;> simp [choose?]

theorem shows_of_rank_le (v level lower : Verbosity) (h : lower.rank ≤ level.rank)
    (hv : v.shows level = true) : v.shows lower = true := by
  simp only [shows, decide_eq_true_eq] at *
  omega

end Verbosity

/-- Arguments that are switches of verbosity and nothing else. -/
def readSwitches (arguments : List String) : Except UsageError Reading := do
  let g : Grammar := ⟨reportSwitches, [], [], []⟩
  let (r, _) ← g.scan .empty .start arguments
  g.check r
  return r

end BenchCharts.CommandLine

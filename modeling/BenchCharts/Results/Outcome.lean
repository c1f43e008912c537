import BenchCharts.Files.Tree
import BenchCharts.Text.Quoted

/-!
What became of reading one file. A file that is not there was never produced, which is expected;
any other failure makes it malformed. In both cases the file is skipped, and a report counts how
often that happened.
-/
namespace BenchCharts.Results

open Files (Path Tree)

inductive Outcome (ε α : Type)
  | absent
  | malformed (cause : ε)
  | loaded (value : α)
  deriving Repr

/-- Why a file that is there cannot be used. -/
inductive FileFault (ε : Type)
  | unreadable (path : Path)
  | unparsed (path : Path) (cause : ε)
  deriving Repr

def FileFault.message {ε : Type} (explain : ε → String) : FileFault ε → String
  | unreadable path => "reading " ++ Text.quoted path.text
  | unparsed path cause => "parsing " ++ Text.quoted path.text ++ ": " ++ explain cause

structure Report where
  loaded : Nat
  absent : Nat
  malformed : Nat
  deriving DecidableEq, Repr, Inhabited

namespace Report

def empty : Report := ⟨0, 0, 0⟩

instance : Add Report where
  add a b := ⟨a.loaded + b.loaded, a.absent + b.absent, a.malformed + b.malformed⟩

def total (reports : List Report) : Report := reports.foldl (· + ·) empty

def skipped (r : Report) : Nat := r.absent + r.malformed

def shown (r : Report) : String :=
  toString r.loaded ++ " loaded, " ++ toString r.absent ++ " absent, " ++ toString r.malformed ++
    " malformed"

end Report

namespace Outcome
variable {ε α β : Type}

def value? : Outcome ε α → Option α
  | loaded value => some value
  | _ => none

def report : Outcome ε α → Report
  | absent => ⟨0, 1, 0⟩
  | malformed _ => ⟨0, 0, 1⟩
  | loaded _ => ⟨1, 0, 0⟩

def map (f : α → β) : Outcome ε α → Outcome ε β
  | absent => absent
  | malformed cause => malformed cause
  | loaded value => loaded (f value)

def mapCause {δ : Type} (f : ε → δ) : Outcome ε α → Outcome δ α
  | absent => absent
  | malformed cause => malformed (f cause)
  | loaded value => loaded value

/-- Reads a file and makes sense of its text. -/
def ofFile (t : Tree) (path : Path) (parse : String → Except ε α) : Outcome (FileFault ε) α :=
  match t.read path with
  | .error .absent => absent
  | .error _ => malformed (.unreadable path)
  | .ok text =>
      match parse text with
      | .error cause => malformed (.unparsed path cause)
      | .ok value => loaded value

theorem report_map (f : α → β) (o : Outcome ε α) : (o.map f).report = o.report := by
  cases o <;> rfl

theorem report_mapCause {δ : Type} (f : ε → δ) (o : Outcome ε α) :
    (o.mapCause f).report = o.report := by
  cases o <;> rfl

end Outcome

end BenchCharts.Results

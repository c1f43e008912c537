import BenchCharts.Text.Quoted

/-!
What a trial was run with: a number of threads, a workload letter or a payload size.
-/
namespace BenchCharts.Results

/-- A workload letter from a to f. -/
structure Workload where
  letter : Char
  valid : 'a' ≤ letter ∧ letter ≤ 'f'
  deriving DecidableEq, Repr

instance : BEq Workload := ⟨fun a b => a.letter == b.letter⟩

namespace Workload

instance : Inhabited Workload := ⟨⟨'a', by decide⟩⟩

def text (w : Workload) : String := String.ofList [w.letter]

def parse? (s : String) : Option Workload :=
  match s.toList with
  | [c] => if h : 'a' ≤ c ∧ c ≤ 'f' then some ⟨c, h⟩ else none
  | _ => none

def invalidMessage (s : String) : String :=
  "invalid YCSB workload " ++ Text.quoted s ++ ", expecting a single letter a-f"

theorem parse?_text (w : Workload) : parse? w.text = some w := by
  simp [parse?, text, w.valid]

theorem parse?_eq_some_iff (s : String) (w : Workload) : parse? s = some w ↔ s = w.text := by
  constructor
  · intro h
    unfold parse? at h
    split at h
    · next c hc =>
      split at h
      · simp only [Option.some.injEq] at h
        subst h
        rw [← String.ofList_toList (s := s), hc]
        rfl
      · simp at h
    · simp at h
  · rintro rfl
    exact parse?_text w

end Workload

/-- The independent variable of a sweep. -/
inductive Configuration
  | threads (count : Nat)
  | workload (w : Workload)
  | size (bytes : Nat)
  deriving DecidableEq, Repr

def Configuration.shown : Configuration → String
  | threads n => "th" ++ toString n
  | workload w => "workload" ++ w.text
  | size n => toString n ++ "B"

/-- Trials either load a database or run a workload on it. -/
inductive TrialPhase
  | load
  | run
  deriving DecidableEq, Repr

def TrialPhase.name : TrialPhase → String
  | load => "load"
  | run => "run"

/-- Size sweeps read or write. -/
inductive Transfer
  | read
  | write
  deriving DecidableEq, Repr

def Transfer.name : Transfer → String
  | read => "read"
  | write => "write"

end BenchCharts.Results

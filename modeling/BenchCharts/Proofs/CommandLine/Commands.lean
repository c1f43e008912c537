import BenchCharts.CommandLine.BenchFigures
import BenchCharts.Proofs.Traversal

/-!
Commands that are chosen by name only. Arguments that end in the command for all figures have the
same options when they end in the name of one figure.
-/
namespace BenchCharts.CommandLine

namespace Grammar

variable {g : Grammar} {r r' : Reading} {p : Position} {name : String}
  {arguments rest : List String}

/-- An option that awaits its value is one that the command takes. -/
def Awaits (g : Grammar) (p : Position) : Prop := ∀ name ∈ p.awaiting, name ∈ g.options

/-- An argument that is no command: it fits nowhere, or the reading goes on behind it. -/
def Reads (g : Grammar) (r : Reading) (p : Position) (argument : String) : Prop :=
  (∃ e, ∀ rest, g.scan r p (argument :: rest) = .error e) ∨
    ∃ r' p', (g.Awaits p → g.Awaits p') ∧
      ∀ rest, g.scan r p (argument :: rest) = g.scan r' p' rest

end Grammar

namespace BenchFigures

open Figure (Kind)

/-- What a command takes by itself. -/
def ownGrammar (command : String) : Grammar := ⟨[], [], values command, []⟩

def optionsOf (reading : Reading) (command : Command) : Options where
  reading
  config := (reading.option? "config").map Files.Path.mk
  results := ⟨(reading.option? "results").getD defaultResults⟩
  command

/-- What arguments that make sense consist of. -/
theorem parse_eq_ok_iff {arguments : List String} {o : Options} :
    parse arguments = .ok o ↔ ∃ reading name rest below found command,
      grammar.scan .empty .start arguments = .ok (reading, some (name, rest)) ∧ name ≠ "help" ∧
      (ownGrammar name).scan .empty .start rest = .ok (below, found) ∧
      (ownGrammar name).check below = .ok () ∧ grammar.check reading = .ok () ∧
      commandOf name below.values.reverse = .ok command ∧ o = optionsOf reading command := by
  unfold parse
  rw [bind_eq_ok_iff]
  constructor
  · rintro ⟨⟨reading, _ | ⟨name, rest⟩⟩, hscan, h⟩
    · simp at h
    · dsimp only at h
      split at h
      · simp at h
      · next hname =>
        simp only [bind_eq_ok_iff, pure_eq_ok_iff] at h
        obtain ⟨⟨below, found⟩, hbelow, _, hown, _, hcheck, command, hcommand, rfl⟩ := h
        exact ⟨reading, name, rest, below, found, command, hscan, hname, hbelow, hown, hcheck,
          hcommand, rfl⟩
  · rintro ⟨reading, name, rest, below, found, command, hscan, hname, hbelow, hown, hcheck,
      hcommand, rfl⟩
    refine ⟨_, hscan, ?_⟩
    dsimp only
    rw [if_neg hname]
    simp only [bind_eq_ok_iff, pure_eq_ok_iff]
    exact ⟨_, hbelow, (), hown, (), hcheck, command, hcommand, rfl⟩

end BenchFigures

end BenchCharts.CommandLine

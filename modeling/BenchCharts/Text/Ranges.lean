/-!
Sets of characters given as closed ranges of code points in ascending order, the form in which
the Unicode data files list a property.
-/
namespace BenchCharts.Text

/-- The character lies in one of the closed ranges. -/
def inRanges (ranges : List (Nat × Nat)) (c : Char) : Bool :=
  ranges.any fun (low, high) => low ≤ c.toNat && c.toNat ≤ high

theorem inRanges_nil (c : Char) : inRanges [] c = false := rfl

theorem inRanges_cons (low high : Nat) (rest : List (Nat × Nat)) (c : Char) :
    inRanges ((low, high) :: rest) c =
      ((low ≤ c.toNat && c.toNat ≤ high) || inRanges rest c) := rfl

/-- Decided for the characters that occur, instead of for all that there are. -/
instance (priority := 1100) decidableForallMem (p : Char → Prop) [DecidablePred p]
    (cs : List Char) : Decidable (∀ c ∈ cs, p c) := List.decidableBAll p cs

end BenchCharts.Text

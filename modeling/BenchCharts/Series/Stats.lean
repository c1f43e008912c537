import BenchCharts.Decimal.Fixed
import BenchCharts.Quantity

/-!
Mean and variance over the trials of one measurement. Values are summed in the order given, so the
same trials always give the same result to the last bit.
-/
namespace BenchCharts.Series

structure Stats (α : Type) where
  count : Nat
  sum : α
  average : α
  /-- Mean squared difference from the mean, dividing by the number of values. -/
  variance : α
  deriving Repr

inductive StatsError (α : Type)
  | noInputs
  | nonFinite (value : α)
  deriving Repr

/-- A value that is not finite is written in letters. -/
def StatsError.message : StatsError Float → String
  | noInputs => "no inputs given"
  | nonFinite value =>
      "non-finite input value " ++ String.ofList (Decimal.fixed 0 (.ofFloat value))

section
variable {α : Type} [Quantity α]

/-- The sum of no values is the zero that keeps the sign of the first value added to it. -/
def total (values : List α) : α := values.foldl (· + ·) (-0)

def squaredDifference (average value : α) : α := (value - average) * (value - average)

def Stats.ofValues (values : List α) : Except (StatsError α) (Stats α) :=
  if values.isEmpty then .error .noInputs
  else match values.find? fun v => !Quantity.isFinite v with
    | some v => .error (.nonFinite v)
    | none =>
        let count : α := (values.length : Nat)
        let sum := total values
        let average := sum / count
        let variance := total (values.map (squaredDifference average)) / count
        .ok ⟨values.length, sum, average, variance⟩

def mean? (values : List α) : Option α :=
  match Stats.ofValues values with
  | .ok stats => some stats.average
  | .error _ => none

theorem mean?_nil : mean? ([] : List α) = none := rfl

/-- Statistics exist exactly for values that are some and all finite. -/
theorem exists_ofValues_iff (values : List α) :
    (∃ stats, Stats.ofValues values = .ok stats) ↔
      values ≠ [] ∧ ∀ v ∈ values, Quantity.isFinite v = true := by
  unfold Stats.ofValues
  split
  next hempty =>
    have hnil : values = [] := List.isEmpty_iff.mp hempty
    simp [hnil]
  next hempty =>
    have hne : values ≠ [] := fun h => hempty (List.isEmpty_iff.mpr h)
    split
    next v hfind =>
      have hmem := List.mem_of_find?_eq_some hfind
      have hbad := List.find?_some hfind
      simp only [reduceCtorEq, exists_false, false_iff, not_and]
      intro _ hall
      simp [hall v hmem] at hbad
    next hfind =>
      rw [List.find?_eq_none] at hfind
      simp only [Except.ok.injEq, exists_eq', true_iff]
      refine ⟨hne, fun v hv => ?_⟩
      simpa using hfind v hv

theorem average_of_ofValues {values : List α} {stats : Stats α}
    (h : Stats.ofValues values = .ok stats) :
    stats.average = total values / ((values.length : Nat) : α) := by
  unfold Stats.ofValues at h
  split at h
  next => simp at h
  next =>
    split at h
    next => simp at h
    next =>
      obtain rfl := Except.ok.inj h
      rfl

/-- The mean of values that are some and all finite is their sum by their number. -/
theorem mean?_eq_some_iff (values : List α) (m : α) :
    mean? values = some m ↔ (values ≠ [] ∧ ∀ v ∈ values, Quantity.isFinite v = true) ∧
      total values / ((values.length : Nat) : α) = m := by
  rw [← exists_ofValues_iff]
  unfold mean?
  cases hstats : Stats.ofValues values with
  | error cause => simp
  | ok stats => simp [average_of_ofValues hstats]

end

def Stats.standardDeviation {α : Type} [Analytic α] (stats : Stats α) : α :=
  Analytic.sqrt stats.variance

end BenchCharts.Series

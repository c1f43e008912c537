/-!
Bounds on the thread counts that a backend supports. Both ends are included, and the lower one is
never above the upper one.
-/
namespace BenchCharts.Series

structure ThreadRange where
  min : Nat
  max : Nat
  min_le_max : min ≤ max
  deriving DecidableEq, Repr

structure RangeError where
  min : Nat
  max : Nat
  deriving DecidableEq, Repr

def RangeError.message (e : RangeError) : String :=
  "invalid range: min " ++ toString e.min ++ " > max " ++ toString e.max

namespace ThreadRange

instance : BEq ThreadRange := ⟨fun a b => a.min == b.min && a.max == b.max⟩

def make (min max : Nat) : Except RangeError ThreadRange :=
  if h : min ≤ max then .ok ⟨min, max, h⟩ else .error ⟨min, max⟩

def contains (r : ThreadRange) (value : Nat) : Bool := r.min ≤ value && value ≤ r.max

/-- The members of a list within the range, in their order. -/
def select (r : ThreadRange) (values : List Nat) : List Nat := values.filter r.contains

def shown (r : ThreadRange) : String := "[" ++ toString r.min ++ ", " ++ toString r.max ++ "]"

theorem make_eq_ok_iff (min max : Nat) (r : ThreadRange) :
    make min max = .ok r ↔ r.min = min ∧ r.max = max := by
  unfold make
  split
  · constructor
    · intro h
      simp only [Except.ok.injEq] at h
      subst h
      exact ⟨rfl, rfl⟩
    · rintro ⟨rfl, rfl⟩
      rfl
  · next h =>
    constructor
    · intro hr
      simp at hr
    · rintro ⟨rfl, rfl⟩
      exact absurd r.min_le_max h

end ThreadRange

end BenchCharts.Series

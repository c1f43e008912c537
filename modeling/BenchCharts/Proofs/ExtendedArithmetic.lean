import BenchCharts.Proofs.ExactArithmetic

/-!
Exact arithmetic beyond the finite. As on doubles there are two infinities and what is no number,
which is neither above nor below anything; but finite quantities are not rounded, and there is one
zero, whose sign counts as positive.
-/
namespace BenchCharts

inductive Extended (K : Type) where
  | finite (x : K)
  | infinite (negative : Bool)
  | undefined
  deriving DecidableEq

namespace Extended
variable {K : Type}

def value? : Extended K → Option K
  | finite x => some x
  | _ => none

theorem mem_filterMap_value? (values : List (Extended K)) (x : K) :
    x ∈ values.filterMap value? ↔ finite x ∈ values := by
  rw [List.mem_filterMap]
  constructor
  · rintro ⟨_ | _ | _, hmem, hx⟩
    · exact Option.some.inj hx ▸ hmem
    · contradiction
    · contradiction
  · exact fun h => ⟨finite x, h, rfl⟩

section
variable [Field K] [LinearOrder K]

/-- Whether a quantity is below zero; what is no number has no sign. -/
def isNegative : Extended K → Bool
  | finite x => x < 0
  | infinite negative => negative
  | undefined => false

def isZero : Extended K → Bool
  | finite x => x = 0
  | _ => false

def neg : Extended K → Extended K
  | finite x => finite (-x)
  | infinite negative => infinite (!negative)
  | undefined => undefined

/-- Opposite infinities have no sum. -/
def add : Extended K → Extended K → Extended K
  | finite x, finite y => finite (x + y)
  | infinite a, infinite b => if a = b then infinite a else undefined
  | infinite a, finite _ => infinite a
  | finite _, infinite b => infinite b
  | _, _ => undefined

/-- An infinity and zero have no product. -/
def mul : Extended K → Extended K → Extended K
  | finite x, finite y => finite (x * y)
  | undefined, _ => undefined
  | _, undefined => undefined
  | x, y => if x.isZero || y.isZero then undefined else infinite (x.isNegative != y.isNegative)

/-- Two infinities, or two zeros, have no quotient. -/
def div : Extended K → Extended K → Extended K
  | finite x, finite y =>
      if y ≠ 0 then finite (x / y) else if x = 0 then undefined else infinite (decide (x < 0))
  | finite _, infinite _ => finite 0
  | infinite a, finite y => infinite (a != decide (y < 0))
  | _, _ => undefined

def below : Extended K → Extended K → Bool
  | finite x, finite y => x < y
  | infinite a, infinite b => a && !b
  | infinite a, finite _ => a
  | finite _, infinite b => !b
  | _, _ => false

def same : Extended K → Extended K → Bool
  | finite x, finite y => x = y
  | infinite a, infinite b => a = b
  | _, _ => false

end

end Extended

section
variable {K : Type} [Field K] [LinearOrder K] [FloorRing K]

instance : Quantity (Extended K) where
  zero := .finite 0
  one := .finite 1
  add := .add
  sub x y := x.add y.neg
  mul := .mul
  div := .div
  neg := .neg
  natCast n := .finite n
  intCast n := .finite n
  ofScientific mantissa negative exponent :=
    .finite (OfScientific.ofScientific mantissa negative exponent)
  lt x y := x.below y = true
  le x y := (x.below y || x.same y) = true
  beq := Extended.same
  decidableLT _ _ := inferInstanceAs (Decidable (_ = true))
  decidableLE _ _ := inferInstanceAs (Decidable (_ = true))
  larger
    | .undefined, y => y
    | x, .undefined => x
    | x, y => if x.below y then y else x
  smaller
    | .undefined, y => y
    | x, .undefined => x
    | x, y => if y.below x then y else x
  floor
    | .finite x => Quantity.floor x
    | .infinite negative => if negative then Int64.minValue.toInt else Int64.maxValue.toInt
    | .undefined => 0
  ceil
    | .finite x => Quantity.ceil x
    | .infinite negative => if negative then Int64.minValue.toInt else Int64.maxValue.toInt
    | .undefined => 0
  round
    | .finite x => Quantity.round x
    | .infinite negative => if negative then Int32.minValue.toInt else Int32.maxValue.toInt
    | .undefined => 0
  isFinite x := x.value?.isSome

instance [Elementary K] : Analytic (Extended K) where
  sqrt
    | .finite x => if x < 0 then .undefined else .finite (Elementary.sqrt x)
    | .infinite negative => if negative then .undefined else .infinite false
    | .undefined => .undefined
  log10
    | .finite x =>
        if x < 0 then .undefined
        else if x = 0 then .infinite true else .finite (Elementary.log10 x)
    | .infinite negative => if negative then .undefined else .infinite false
    | .undefined => .undefined
  exp10
    | .finite x => .finite (Elementary.exp10 x)
    | .infinite negative => if negative then .finite 0 else .infinite false
    | .undefined => .undefined

namespace Extended

/-! ## Finite quantities -/

@[simp]
theorem finite_zero : (0 : Extended K) = finite 0 := rfl

@[simp]
theorem finite_one : (1 : Extended K) = finite 1 := rfl

@[simp]
theorem neg_finite (x : K) : -finite x = finite (-x) := rfl

@[simp]
theorem finite_add (x y : K) : finite x + finite y = finite (x + y) := rfl

@[simp]
theorem finite_sub (x y : K) : finite x - finite y = finite (x - y) := by
  rw [sub_eq_add_neg]
  rfl

@[simp]
theorem finite_mul (x y : K) : finite x * finite y = finite (x * y) := rfl

theorem finite_div (x : K) {y : K} (h : y ≠ 0) : finite x / finite y = finite (x / y) :=
  if_pos h

@[simp]
theorem finite_lt (x y : K) : finite x < finite y ↔ x < y :=
  decide_eq_true_iff (p := x < y)

@[simp]
theorem finite_le (x y : K) : finite x ≤ finite y ↔ x ≤ y := by
  change (decide (x < y) || decide (x = y)) = true ↔ _
  simp [le_iff_lt_or_eq]

@[simp]
theorem finite_beq (x y : K) : (finite x == finite y) = (x == y) :=
  (beq_eq_decide x y).symm

@[simp]
theorem larger_finite (x y : K) :
    Quantity.larger (finite x) (finite y) = finite (Quantity.larger x y) := by
  change (if decide (x < y) = true then finite y else finite x) = finite (max x y)
  rw [max_def_lt, apply_ite finite]
  simp

@[simp]
theorem smaller_finite (x y : K) :
    Quantity.smaller (finite x) (finite y) = finite (Quantity.smaller x y) := by
  change (if decide (y < x) = true then finite y else finite x) = finite (min x y)
  rw [min_comm, min_def_lt, apply_ite finite]
  simp

/-! ## Comparisons beyond the finite -/

@[simp]
theorem finite_le_infinite (x : K) (negative : Bool) :
    finite x ≤ infinite negative ↔ negative = false := by
  change (!negative || false) = true ↔ _
  simp

@[simp]
theorem infinite_le_finite (negative : Bool) (x : K) :
    infinite negative ≤ finite x ↔ negative = true := by
  change (negative || false) = true ↔ _
  simp

@[simp]
theorem not_le_undefined (x : Extended K) : ¬x ≤ undefined := by
  cases x <;> exact Bool.false_ne_true

end Extended

end

end BenchCharts

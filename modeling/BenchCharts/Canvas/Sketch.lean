/-!
Arithmetic on pixels. The numbers of a drawing are signed ones of 32 bits, and a drawing in which a
sum or a product leaves their range is given up. A sketch is a drawing in the making: it names every
number that must be in range before it goes on. Without limits the same sketch is drawn to its end,
and it comes to nothing else as long as none of its numbers is out of range.
-/
namespace BenchCharts.Canvas

/-- A signed number of 32 bits. -/
def IsPixel (n : Int) : Prop := Int32.minValue.toInt ≤ n ∧ n ≤ Int32.maxValue.toInt

instance (n : Int) : Decidable (IsPixel n) := inferInstanceAs (Decidable (_ ∧ _))

inductive Sketch (α : Type)
  | done (a : α)
  | check (n : Int) (next : Int → Sketch α)

/-- A number that must be in range. -/
def fit (n : Int) : Sketch Int := .check n .done

namespace Sketch

variable {α β : Type}

def bind : Sketch α → (α → Sketch β) → Sketch β
  | done a, f => f a
  | check n next, f => check n fun k => (next k).bind f

instance : Monad Sketch where
  pure := done
  bind := bind

theorem id_map_eq (x : Sketch α) : id <$> x = x := by
  induction x with
  | done a => rfl
  | check n next ih => exact congrArg (check n) (funext ih)

theorem bind_bind {γ : Type} (x : Sketch α) (f : α → Sketch β) (g : β → Sketch γ) :
    x >>= f >>= g = x >>= fun a => f a >>= g := by
  induction x with
  | done a => rfl
  | check n next ih => exact congrArg (check n) (funext ih)

instance : LawfulMonad Sketch := .mk' Sketch id_map_eq (fun _ _ => rfl) bind_bind

/-- What the sketch comes to if all its numbers are in range. -/
def checked : Sketch α → Option α
  | done a => some a
  | check n next => if IsPixel n then (next n).checked else none

/-- What the sketch comes to, however large its numbers are. -/
def unlimited : Sketch α → α
  | done a => a
  | check n next => (next n).unlimited

theorem checked_bind (x : Sketch α) (f : α → Sketch β) :
    (x >>= f).checked = x.checked.bind fun a => (f a).checked := by
  induction x with
  | done a => rfl
  | check n next ih =>
    change (if IsPixel n then (next n >>= f).checked else none) =
      (if IsPixel n then (next n).checked else none).bind _
    split
    · exact ih n
    · rfl

@[simp]
theorem unlimited_pure (a : α) : (pure a : Sketch α).unlimited = a := rfl

@[simp]
theorem unlimited_bind (x : Sketch α) (f : α → Sketch β) :
    (x >>= f).unlimited = (f x.unlimited).unlimited := by
  induction x with
  | done a => rfl
  | check n next ih => exact ih n

/-- No number is changed by its check. -/
theorem unlimited_of_checked {x : Sketch α} {a : α} (h : x.checked = some a) :
    x.unlimited = a := by
  induction x with
  | done b => exact Option.some.inj h
  | check n next ih =>
    rw [checked, Option.ite_none_right_eq_some] at h
    exact ih n h.2

end Sketch

end BenchCharts.Canvas

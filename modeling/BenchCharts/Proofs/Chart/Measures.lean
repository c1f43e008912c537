import BenchCharts.Chart.Document
import BenchCharts.Proofs.Traversal
import Mathlib.Algebra.Ring.Nat

/-!
Which sizes in a chart stay in range. A canvas in range can always be split for a broken axis, but
the room for letters grows with the letters and with the lines of text, and has a size only as long
as all products on the way to it are in range.
-/
namespace BenchCharts.Chart

open Canvas (CanvasSize Pen)

/-- The size could be worked out. -/
def InRange (size : Except MeasureError Nat) : Prop := ∃ n, size = .ok n

instance (size : Except MeasureError Nat) : Decidable (InRange size) :=
  match size with
  | .ok n => isTrue ⟨n, rfl⟩
  | .error e => isFalse (by simp [InRange])

theorem bind_eq_error_tooFar_iff {n : Nat} {f : Nat → Except MeasureError Nat} :
    (measured n >>= f) = .error .tooFar ↔ n < UInt32.size ∧ f n = .error .tooFar := by
  unfold measured
  split
  · next h => simp [Bind.bind, Except.bind, h]
  · next h => simp [Bind.bind, Except.bind, h]

theorem measured_ne_tooFar {n : Nat} : measured n ≠ .error .tooFar := by
  unfold measured
  split <;> simp

/-- A size has no pixels that could be out of range. -/
theorem eq_tooLarge_iff {size : Except MeasureError Nat} (h : size ≠ .error .tooFar) :
    size = .error .tooLarge ↔ ¬ InRange size := by
  rcases size with (_ | _) | n
  · simp [InRange]
  · contradiction
  · simp [InRange]

/-! ## Sizes -/

variable {size : CanvasSize} {pen : Pen}

theorem elements_eq_tooLarge_iff (c : Chart) :
    c.elements size pen = .error .tooLarge ↔ c.sketch size pen = .error .tooLarge := by
  unfold elements
  cases c.sketch size pen with
  | error e => simp [Bind.bind, Except.bind]
  | ok drawing =>
    refine iff_of_false ?_ (by simp)
    cases hdrawn : drawing.checked with
    | none => simp [Bind.bind, Except.bind, hdrawn, throw, throwThe, MonadExceptOf.throw]
    | some drawn => simp [Bind.bind, Except.bind, hdrawn, pure_ne_error]

/-- A chart with a broken axis has no size to fail, as long as its canvas has one. -/
theorem BrokenAxis.tooLarge_iff (c : BrokenAxis) :
    (Chart.broken c).elements size pen = .error .tooLarge ↔
      ¬ InRange (splitHeight size.height) := by
  have hpixels : splitHeight size.height ≠ .error .tooFar := by
    unfold splitHeight
    simp [bind_eq_error_tooFar_iff, measured_ne_tooFar]
  rw [elements_eq_tooLarge_iff, ← eq_tooLarge_iff hpixels]
  unfold sketch
  simp only [bind_eq_error_iff, pure_ne_error, and_false, exists_false, or_false]

theorem Stacked.tooLarge_iff (c : Stacked Float) :
    (Chart.stacked c).elements size pen = .error .tooLarge ↔
      ¬ InRange (bandHeight size.height c.rows pen) := by
  have hpixels : bandHeight size.height c.rows pen ≠ .error .tooFar := by
    unfold bandHeight
    simp only [ne_eq, bind_eq_error_tooFar_iff, pure_ne_error, and_false, not_false_eq_true]
  rw [elements_eq_tooLarge_iff, ← eq_tooLarge_iff hpixels]
  unfold sketch
  simp only [bind_eq_error_iff, pure_ne_error, and_false, exists_false, or_false]

theorem SideBySide.tooLarge_iff {c : SideBySide} (hpanels : c.panels ≠ []) :
    (Chart.sideBySide c).elements size pen = .error .tooLarge ↔
      ¬ (InRange (labelRoom c.labelLines pen) ∧ InRange (marginTop pen)) := by
  have hlabels : labelRoom c.labelLines pen ≠ .error .tooFar := by
    unfold labelRoom
    simp [bind_eq_error_tooFar_iff, measured_ne_tooFar]
  obtain ⟨first, rest, hcons⟩ := List.exists_cons_of_ne_nil hpanels
  -- All panels need the same room above their bars.
  have htops : (c.panels.mapM fun _ => marginTop pen) = .error .tooLarge ↔
      ¬ InRange (marginTop pen) := by
    rw [← eq_tooLarge_iff (show marginTop pen ≠ .error .tooFar from measured_ne_tooFar),
      mapM_eq_error_iff]
    constructor
    · rintro ⟨_, _, _, -, -, h⟩
      exact h
    · exact fun h => ⟨[], first, rest, hcons, by simp, h⟩
  rw [elements_eq_tooLarge_iff, not_and_or, ← htops, ← eq_tooLarge_iff hlabels]
  unfold sketch rooms
  simp only [bind_eq_error_iff, pure_ne_error, and_false, exists_false, or_false]
  rw [eq_tooLarge_iff hlabels]
  change ¬ InRange _ ∨ (∃ labels, _ ∧ _) ↔ _
  rw [exists_and_right]
  change ¬ InRange _ ∨ InRange _ ∧ _ ↔ _
  tauto

end BenchCharts.Chart

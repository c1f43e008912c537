import BenchCharts.Proofs.Chart.Labels
import Mathlib.Data.List.Basic

/-!
Lines without points. They leave the axes of a chart as they are and nothing is drawn for them, but
the legend of a chart names all of its lines.
-/
namespace BenchCharts.Chart

open Canvas (CanvasSize Element Pen Plot Sketch)
open BenchCharts.Geometry (Window)

def StyledLine.hasPoints (l : StyledLine) : Bool := !l.points.isEmpty

theorem StyledLine.points_of_not_hasPoints {l : StyledLine} (h : ¬ l.hasPoints = true) :
    l.points = [] := by
  unfold hasPoints at h
  simpa using h

theorem StyledLine.elements_of_not_hasPoints {l : StyledLine} (h : ¬ l.hasPoints = true)
    (plot : Plot) (window : Window Float) (pen : Pen) : l.elements plot window pen = pure [] := by
  have hclip : window.clipLine ([] : List (Float × Float)) = [] := by
    unfold Window.clipLine
    split <;> rfl
  unfold elements
  rw [points_of_not_hasPoints h, hclip]
  simp

/-- What empty lines add nothing to is the same without them. -/
theorem flatMapM_hasPoints {β : Type} {f : StyledLine → Sketch (List β)}
    (hf : ∀ l, ¬ l.hasPoints = true → f l = pure []) (lines : List StyledLine) :
    (lines.filter StyledLine.hasPoints).flatMapM f = lines.flatMapM f := by
  induction lines with
  | nil => rfl
  | cons l rest ih =>
    by_cases h : l.hasPoints = true
    · rw [List.filter_cons_of_pos h, List.flatMapM_cons, List.flatMapM_cons, ih]
    · rw [List.filter_cons_of_neg h, List.flatMapM_cons, hf l h, ih]
      simp

/-- Empty lines have no values. -/
theorem flatMap_hasPoints {β : Type} (f : Float × Float → β) (lines : List StyledLine) :
    ((lines.filter StyledLine.hasPoints).flatMap fun l => l.points.map f) =
      lines.flatMap fun l => l.points.map f := by
  induction lines with
  | nil => rfl
  | cons l rest ih =>
    by_cases h : l.hasPoints = true
    · rw [List.filter_cons_of_pos h, List.flatMap_cons, List.flatMap_cons, ih]
    · rw [List.filter_cons_of_neg h, List.flatMap_cons, StyledLine.points_of_not_hasPoints h, ih]
      rfl

namespace BrokenAxis

variable {c : BrokenAxis} {size : CanvasSize} {pen : Pen}

/-- The chart without its empty lines. -/
def nonempty (c : BrokenAxis) : BrokenAxis := c.withLines (c.lines.filter StyledLine.hasPoints)

theorem drawn_nonempty (c : BrokenAxis) :
    c.nonempty.drawn = c.drawn.filter StyledLine.hasPoints := by
  unfold drawn nonempty withLines
  exact List.filter_comm _ _ _

theorem shownRange_nonempty (c : BrokenAxis) : c.nonempty.shownRange = c.shownRange := by
  have hvalues : (c.nonempty.drawn.flatMap fun l => l.points.map (·.1)) =
      c.drawn.flatMap fun l => l.points.map (·.1) := by
    rw [drawn_nonempty, flatMap_hasPoints]
  unfold shownRange
  rw [hvalues]
  rfl

/-- The legend tells if a line is empty. -/
theorem legend_nonempty_iff (c : BrokenAxis) (pen : Pen) :
    c.nonempty.legend pen = c.legend pen ↔
      ∀ l ∈ c.lines, l.style.isPrimary = true → l.hasPoints = true := by
  have hdrawn : (∀ l ∈ c.drawn, l.hasPoints = true) ↔
      ∀ l ∈ c.lines, l.style.isPrimary = true → l.hasPoints = true := by
    unfold drawn
    simp only [List.mem_filter, and_imp]
  unfold legend
  rw [drawn_nonempty, ← hdrawn]
  constructor
  · intro h
    have hlength := congrArg List.length h
    rw [List.length_map, List.length_map] at hlength
    exact List.length_filter_eq_length_iff.mp hlength
  · intro h
    rw [List.filter_eq_self.mpr h]

/-- Except for its legend the chart is drawn without its empty lines. -/
theorem elements_nonempty (c : BrokenAxis) (size : CanvasSize) (pen : Pen) (height : Nat) :
    ∃ (panels : Sketch Panels) (before after : Panels → Sketch (List Element)),
      ∀ chart ∈ [c, c.nonempty], chart.elements size pen height = do
        let p ← panels
        let first ← before p
        let legend ← Canvas.Legend.elements p.upper.area (chart.legend pen) pen.fontSize true
        return first ++ legend ++ (← after p) := by
  have haxis : c.nonempty.xAxis = c.xAxis := by
    unfold xAxis
    rw [shownRange_nonempty]
    rfl
  have hlines (p : Panels) : c.nonempty.drawn.flatMapM (c.lineElements pen p) =
      c.drawn.flatMapM (c.lineElements pen p) := by
    rw [drawn_nonempty]
    apply flatMapM_hasPoints
    intro l hl
    unfold lineElements
    rw [StyledLine.elements_of_not_hasPoints hl, StyledLine.elements_of_not_hasPoints hl]
    simp
  refine ⟨c.panels size height, fun p => do
    return (← c.meshElements pen p) ++ (← c.drawn.flatMapM (c.lineElements pen p)),
    c.closing size pen, ?_⟩
  rw [List.forall_mem_cons, List.forall_mem_singleton]
  constructor
  · unfold elements
    simp
  · have hnonempty : c.withLines (c.lines.filter StyledLine.hasPoints) = c.nonempty := rfl
    rw [← hnonempty, elements_withLines haxis]
    simp [hnonempty, hlines]

end BrokenAxis

end BenchCharts.Chart

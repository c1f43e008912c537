import BenchCharts.Chart.BrokenAxis
import BenchCharts.Proofs.Decimal.Truncation

/-!
A canvas that leaves nothing for the plots of a chart with a broken axis. There is no room for
labels then, and all values stand in one place, so a chart without lines has no place that is out of
range.
-/
namespace BenchCharts

open BenchCharts.Geometry (AxisRange)
open Canvas (Area Axis CanvasSize IsPixel Pen Pixel Plot Sketch)

namespace Canvas

theorem isPixel_wholePixel (x : Float) : IsPixel (wholePixel x) :=
  Decimal.saturate_mem (by decide) (by decide) (by decide) (by decide) x

theorem isPixel_toPixel (x : Float) : IsPixel (Geometry.toPixel x) :=
  Decimal.saturate_mem (by decide) (by decide) (by decide) (by decide) x.round

namespace Sketch

variable {α β : Type}

/-- All numbers of the sketch are in range. -/
def InRange (x : Sketch α) : Prop := ∃ a, x.checked = some a

theorem inRange_pure (a : α) : (pure a : Sketch α).InRange := ⟨a, rfl⟩

theorem inRange_fit {n : Int} (h : IsPixel n) : (fit n).InRange := ⟨n, if_pos h⟩

theorem InRange.bind_of {x : Sketch α} {a : α} {f : α → Sketch β} (hx : x.checked = some a)
    (hf : (f a).InRange) : (x >>= f).InRange := by
  obtain ⟨b, hb⟩ := hf
  exact ⟨b, by rw [checked_bind, hx, Option.bind_some, hb]⟩

theorem InRange.bind {x : Sketch α} {f : α → Sketch β} (hx : x.InRange)
    (hf : ∀ a, (f a).InRange) : (x >>= f).InRange := by
  obtain ⟨a, ha⟩ := hx
  exact .bind_of ha (hf a)

theorem InRange.mapM {f : α → Sketch β} {as : List α} (h : ∀ a ∈ as, (f a).InRange) :
    (as.mapM f).InRange := by
  induction as with
  | nil => exact inRange_pure []
  | cons a rest ih =>
    rw [List.forall_mem_cons] at h
    rw [List.mapM_cons]
    exact h.1.bind fun b => (ih h.2).bind fun bs => inRange_pure (b :: bs)

end Sketch

theorem inRange_linearPixel_of_zero {last : Int} (h : IsPixel last) (low high v : Float) :
    (linearPixel low high v (0, last)).InRange := by
  have hfirst (x : Float) : (fit (0 + wholePixel x)).InRange := by
    rw [Int.zero_add]
    exact Sketch.inRange_fit (isPixel_wholePixel x)
  have hlength : (fit (last - 0)).checked = some (last - 0) := if_pos (by simpa using h)
  unfold linearPixel
  refine .bind_of hlength ?_
  split
  · exact Sketch.inRange_pure _
  · dsimp only
    split
    · exact Sketch.inRange_pure _
    · split
      · exact Sketch.inRange_pure _
      · split
        · exact hfirst _
        · exact hfirst _

/-- An axis that starts at the edge of the canvas has all its values in range. -/
theorem inRange_pixel_of_zero (a : Axis) {last : Int} (h : IsPixel last) (v : Float) :
    (a.pixel (0, last) v).InRange := by
  unfold Axis.pixel
  split
  · exact inRange_linearPixel_of_zero h _ _ v
  · exact inRange_linearPixel_of_zero h _ _ _

/-- An axis with a single value has it in the middle. -/
theorem inRange_pixel_of_single {a : Axis} {limits : Int × Int} (hscale : a.scale = .linear)
    (hsingle : (a.range.max == a.range.min) = true) (hlength : IsPixel (limits.2 - limits.1))
    (v : Float) : (a.pixel limits v).InRange := by
  unfold Axis.pixel
  rw [hscale]
  unfold linearPixel
  rw [hsingle]
  exact .bind (Sketch.inRange_fit hlength) fun length => Sketch.inRange_pure _

/-- A plot without width at the edge of the canvas, with a single value on its y axis. -/
structure Plot.IsNarrow (p : Plot) : Prop where
  left : p.area.left = 0
  right : p.area.right = 0
  scale : p.y.scale = .linear
  single : (p.y.range.max == p.y.range.min) = true
  bottom : IsPixel (p.area.bottom - 1)
  height : IsPixel (p.area.top - (p.area.bottom - 1))

theorem Plot.IsNarrow.inRange_place {p : Plot} (h : p.IsNarrow) (v : Float × Float) :
    (p.place v).InRange := by
  have hx : p.xLimits.checked = some (0, -1) := by
    unfold xLimits
    rw [h.left, h.right]
    rfl
  have hy : p.yLimits.checked = some (p.area.bottom - 1, p.area.top) := if_pos h.bottom
  have hpixel : (p.pixel v).InRange :=
    .bind_of hx <| (inRange_pixel_of_zero p.x (by decide) v.1).bind fun x =>
      .bind_of hy <| (inRange_pixel_of_single h.scale h.single h.height v.2).bind fun y =>
        Sketch.inRange_pure (x, y)
  exact hpixel.bind fun q => Sketch.inRange_pure (p.area.clamp q)

theorem Plot.IsNarrow.inRange_outline {p : Plot} (h : p.IsNarrow) (points : List (Float × Float)) :
    (p.outline points).InRange :=
  (Sketch.InRange.mapM fun v _ => h.inRange_place v).bind fun _ => Sketch.inRange_pure _

/-- A path on a canvas as a whole, wherever it goes. -/
theorem inRange_pathOn {a : Area} (hleft : a.left = 0) (htop : a.top = 0) {places : List Pixel}
    (h : ∀ p ∈ places, IsPixel p.1 ∧ IsPixel p.2) : (pathOn a places).InRange := by
  have hplace : ∀ p ∈ places, (do a.place (← a.relative p)).InRange := by
    intro p hp
    obtain ⟨hx, hy⟩ := h p hp
    have hrelative : (a.relative p).checked = some p := by
      unfold Area.relative
      rw [hleft, htop, Int.sub_zero, Int.sub_zero]
      exact (if_pos hx).trans (if_pos hy)
    have hoffset : (a.offset p).checked = some p := by
      unfold Area.offset
      rw [hleft, htop, Int.add_zero, Int.add_zero]
      exact (if_pos hx).trans (if_pos hy)
    exact .bind_of hrelative (.bind_of hoffset (Sketch.inRange_pure (a.clamp p)))
  exact (Sketch.InRange.mapM hplace).bind fun _ => Sketch.inRange_pure _

theorem inRange_breakMarks {a : Area} (hleft : a.left = 0) (htop : a.top = 0) (left right y : Int) :
    (breakMarks a left right y).InRange := by
  apply Sketch.InRange.mapM
  intro x _
  apply inRange_pathOn hleft htop
  intro p hp
  rcases List.mem_pair.mp hp with rfl | rfl
  · exact ⟨isPixel_toPixel _, isPixel_toPixel _⟩
  · exact ⟨isPixel_toPixel _, isPixel_toPixel _⟩

end Canvas

namespace Chart.BrokenAxis

/-- A canvas as wide as what is kept free beside the plots, and as high as what is kept free above,
between and below them. -/
def narrow : CanvasSize := ⟨24, 88⟩

/-- A panel without an inside on such a canvas. -/
def strip (x : Axis) (y : AxisRange Float) (top bottom : Int) : Plot where
  x := x
  y := ⟨y, .linear⟩
  area := ⟨0, top, 0, top⟩
  above := ⟨0, top, 0, top⟩
  left := ⟨0, top, 0, top⟩
  below := ⟨0, top, 0, bottom⟩
  right := ⟨0, top, 70, top⟩

theorem isNarrow_strip {y : AxisRange Float} (hsingle : (y.max == y.min) = true) {top : Int}
    (htop : IsPixel (top - 1)) (x : Axis) (bottom : Int) : (strip x y top bottom).IsNarrow where
  left := rfl
  right := rfl
  scale := rfl
  single := hsingle
  bottom := htop
  height := by
    change IsPixel (top - (top - 1))
    rw [Int.sub_sub_self]
    decide

/-- Without lines the chart can be drawn there, if both panels show a single value. -/
theorem inRange_narrow {c : BrokenAxis} (hlines : c.drawn = [])
    (hupper : (c.upper.max == c.upper.min) = true) (hlower : (c.lower.max == c.lower.min) = true)
    (pen : Pen) : (c.elements narrow pen 17).InRange := by
  let panels : Panels := ⟨strip c.xAxis c.upper 10 10, strip c.xAxis c.lower 24 88⟩
  have habove : panels.upper.IsNarrow := isNarrow_strip hupper (by decide) _ _
  have hbelow : panels.lower.IsNarrow := isNarrow_strip hlower (by decide) _ _
  have hlegend :
      (Canvas.Legend.elements panels.upper.area (c.legend pen) pen.fontSize true).InRange := by
    unfold legend
    rw [hlines]
    exact ⟨_, rfl⟩
  have hedges : (edges panels).InRange :=
    (habove.inRange_outline _).bind fun _ => (habove.inRange_outline _).bind fun _ =>
      (hbelow.inRange_outline _).bind fun _ => Sketch.inRange_pure _
  have hmarks : (marks (.ofSize narrow) panels).InRange :=
    (Canvas.inRange_breakMarks rfl rfl _ _ _).bind fun _ =>
      (Canvas.inRange_breakMarks rfl rfl _ _ _).bind fun _ => Sketch.inRange_pure _
  have hdescription : (c.description (.ofSize narrow) pen panels).InRange := ⟨_, rfl⟩
  have hclosing : (c.closing narrow pen panels).InRange :=
    hedges.bind fun _ => hmarks.bind fun _ => hdescription.bind fun _ => Sketch.inRange_pure _
  have hpanels : (c.panels narrow 17).checked = some panels := rfl
  have hmeshes : (c.meshElements pen panels).checked = some [] := rfl
  unfold elements
  rw [hlines]
  exact .bind_of hpanels <| .bind_of hmeshes <| .bind_of rfl <| hlegend.bind fun _ =>
    hclosing.bind fun _ => Sketch.inRange_pure _

end Chart.BrokenAxis

end BenchCharts

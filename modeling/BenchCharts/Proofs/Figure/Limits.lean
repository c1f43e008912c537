import BenchCharts.Proofs.Figure.Runs

/-!
Runs without limits for pixels. A chart with all its places in range is drawn as it would be without
limits, and so are figures that are not broken off, one after the other.
-/
namespace BenchCharts

open Canvas (CanvasSize Element Pen)
open Files (Tree)

theorem Chart.unlimited_of_elements {c : Chart} {size : CanvasSize} {pen : Pen}
    {drawn : List Element} (h : c.elements size pen = .ok drawn) :
    c.unlimited size pen = .ok drawn := by
  unfold elements at h
  unfold unlimited
  obtain ⟨sketch, hsketch, hchecked⟩ := (bind_eq_ok_iff _).mp h
  rw [hsketch]
  cases hdrawn : sketch.checked with
  | none => simp [hdrawn, throw, throwThe, MonadExceptOf.throw] at hchecked
  | some shown =>
    rw [hdrawn] at hchecked
    obtain rfl := Except.ok.inj hchecked
    exact congrArg Except.ok (Canvas.Sketch.unlimited_of_checked hdrawn)

namespace Figure.Study

variable {s : Study} {t : Tree} {kind : Kind} {kinds : List Kind}

/-- The same study with charts that may be of any size. -/
def unlimited (s : Study) : Study := { s with drawing := Chart.unlimited }

section
variable (hdrawing : s.drawing = Chart.elements)
include hdrawing

theorem write_unlimited {a : Artifact} (h : s.Drawable a) (t : Tree) :
    s.unlimited.write t a = s.write t a := by
  obtain ⟨drawn, hdrawn⟩ := h
  have hunlimited : s.unlimited.drawing a.chart a.size s.config.pen = .ok drawn :=
    Chart.unlimited_of_elements (hdrawing ▸ hdrawn)
  unfold write
  rw [hdrawn, show s.unlimited.config = s.config from rfl, hunlimited]
  rfl

theorem writeAll_unlimited {drawn : List Artifact} (h : ¬ BreaksOff (s.writeAll t drawn).2) :
    s.unlimited.writeAll t drawn = s.writeAll t drawn := by
  induction drawn generalizing t with
  | nil => rfl
  | cons a rest ih =>
    obtain ⟨hfirst, hrest⟩ := not_breaksOff_writeAll_cons h
    unfold writeAll
    rw [write_unlimited hdrawing hfirst]
    rcases hwritten : s.write t a with ⟨u, e | done⟩
    · rfl
    · rw [hwritten] at hrest
      simp only [ih (hrest rfl)]
      rfl

theorem render_unlimited (h : ¬ BreaksOff (s.render t kind).2) :
    s.unlimited.render t kind = s.render t kind := by
  unfold render at h ⊢
  rw [show s.unlimited.data t kind = s.data t kind from rfl]
  cases hdata : s.data t kind with
  | error e => rfl
  | ok d =>
    dsimp only
    rw [show s.unlimited.artifacts d = s.artifacts d from rfl]
    cases hdrawn : s.artifacts d with
    | error e => rfl
    | ok drawn =>
      simp only [hdata, hdrawn] at h
      exact writeAll_unlimited hdrawing h

theorem renderEach_unlimited {results : List Result} (h : (s.renderEach t kinds).2 = .ok results) :
    s.unlimited.renderEach t kinds = s.renderEach t kinds := by
  induction kinds generalizing t results with
  | nil => rfl
  | cons kind rest ih =>
    obtain ⟨hdrawn, more, hmore, -⟩ := renderEach_cons_of_ok h
    have hrender := render_unlimited hdrawing hdrawn
    have hdrawn' : ¬ BreaksOff (s.unlimited.render t kind).2 := by rwa [hrender]
    rw [renderEach_of_not_breaksOff hdrawn, renderEach_of_not_breaksOff hdrawn', hrender, ih hmore]

end

end Figure.Study

end BenchCharts

import Mathlib.Analysis.SpecialFunctions.Log.Base
import BenchCharts.Proofs.Geometry.Clipping
import BenchCharts.Proofs.Geometry.Rectangles
import BenchCharts.Proofs.RealArithmetic

/-!
The lines of a hatch. The plane is filled with evenly spaced lines, and a rectangle shows the part
of each line that lies inside. A rectangle that is cut in two is therefore hatched as before.
-/
namespace BenchCharts.Geometry

open Style (Stroke)

/-- The line of a stroke with a given number, over the whole plane. -/
def patternLine (stroke : Stroke) (spacing : ℝ) (k : ℤ) : Set (ℝ × ℝ) :=
  match stroke with
  | .vertical => {p | p.1 = k * spacing}
  | .horizontal => {p | p.2 = k * spacing}
  | .forward => {p | p.1 + p.2 = k * (spacing * √2)}
  | .back => {p | p.2 - p.1 = k * (spacing * √2)}
  | .dots => ∅
  | .stars => ∅

/-! ## Parts of lines -/

/-- What is drawn of a segment. -/
def inked (ends : (ℝ × ℝ) × (ℝ × ℝ)) : Set (ℝ × ℝ) := segment ℝ ends.1 ends.2

/-- The same in the arithmetic of an ordered field, in which the laws of cutting are stated. -/
theorem hatchSegments_eq (r : PixelRect ℝ) (stroke : Stroke) (density : ℕ) :
    hatchSegments r stroke density = (hatchLines r stroke density).filterMap fun (a, b) =>
      (clipParameters a b (r.left, r.top) (r.right, r.bottom)).map fun (t0, t1) =>
        (along a b t0, along a b t1) := rfl

open Classical in
/-- Of the lines that may meet a rectangle those that do are drawn, inside the rectangle. -/
theorem hatchSegments_inked (r : PixelRect ℝ) (stroke : Stroke) (density : ℕ) :
    (hatchSegments r stroke density).map inked =
      ((hatchLines r stroke density).map (inked · ∩ r.area)).filter (·.Nonempty) := by
  rw [hatchSegments_eq, List.map_filterMap, ← List.filterMap_eq_filter, List.filterMap_map]
  congr 1
  funext ⟨a, b⟩
  simp only [Function.comp_apply, inked, PixelRect.area]
  cases hclip : clipParameters a b (r.left, r.top) (r.right, r.bottom) with
  | none => simp [segment_hidden hclip, Option.guard]
  | some parameters =>
    obtain ⟨-, -, hvisible⟩ := segment_visible hclip
    have hnonempty : (segment ℝ (along a b parameters.1) (along a b parameters.2)).Nonempty :=
      ⟨_, left_mem_segment ℝ _ _⟩
    simp [inked, hvisible, hnonempty, Option.guard]

/-- A piece of a line that reaches across a rectangle shows all of the line that is inside. -/
theorem segment_inter_area {r : PixelRect ℝ} (point : ℝ → ℝ × ℝ)
    (affine : ∀ t, along (point 0) (point 1) t = point t) {t0 t1 : ℝ} (ordered : t0 ≤ t1)
    {line : Set (ℝ × ℝ)} (parameter : ℝ × ℝ → ℝ) (hline : ∀ t, point t ∈ line)
    (hpoint : ∀ p ∈ line, point (parameter p) = p)
    (hacross : ∀ p ∈ r.area, t0 ≤ parameter p ∧ parameter p ≤ t1) :
    segment ℝ (point t0) (point t1) ∩ r.area = line ∩ r.area := by
  rw [← affine t0, ← affine t1, ← along_image_Icc _ _ ordered, funext affine]
  ext p
  constructor
  · rintro ⟨⟨t, -, rfl⟩, hp⟩
    exact ⟨hline t, hp⟩
  · rintro ⟨hp, hinside⟩
    exact ⟨⟨parameter p, hacross p hinside, hpoint p hp⟩, hinside⟩

section
variable {r : PixelRect ℝ}

theorem inked_vertical (ordered : r.top ≤ r.bottom) (c : ℝ) :
    inked ((c, r.top), (c, r.bottom)) ∩ r.area = {p | p.1 = c} ∩ r.area :=
  segment_inter_area (fun t => (c, t)) (by simp [along]) ordered Prod.snd (fun _ => rfl)
    (fun _ hp => Prod.ext hp.symm rfl) fun _ hp => ⟨hp.1.2, hp.2.2⟩

theorem inked_horizontal (ordered : r.left ≤ r.right) (c : ℝ) :
    inked ((r.left, c), (r.right, c)) ∩ r.area = {p | p.2 = c} ∩ r.area :=
  segment_inter_area (fun t => (t, c)) (by simp [along]) ordered Prod.fst (fun _ => rfl)
    (fun _ hp => Prod.ext rfl hp.symm) fun _ hp => ⟨hp.1.1, hp.2.1⟩

theorem inked_forward (ordered : r.top ≤ r.bottom) (c : ℝ) :
    inked ((c - r.bottom, r.bottom), (c - r.top, r.top)) ∩ r.area =
      {p | p.1 + p.2 = c} ∩ r.area := by
  rw [inked, segment_symm]
  refine segment_inter_area (fun t => (c - t, t)) (fun t => ?_) ordered Prod.snd
    (fun t => sub_add_cancel c t) (fun p hp => Prod.ext (sub_eq_of_eq_add hp.symm) rfl)
    fun _ hp => ⟨hp.1.2, hp.2.2⟩
  ext <;> simp [along]
  ring

theorem inked_back (ordered : r.left ≤ r.right) (c : ℝ) :
    inked ((r.left, r.left + c), (r.right, r.right + c)) ∩ r.area =
      {p | p.2 - p.1 = c} ∩ r.area := by
  refine segment_inter_area (fun t => (t, t + c)) (fun t => ?_) ordered Prod.fst
    (fun t => add_sub_cancel_left t c) (fun p hp => Prod.ext rfl (add_eq_of_eq_sub' hp.symm))
    fun _ hp => ⟨hp.1.1, hp.2.1⟩
  ext <;> simp [along]
  ring

end

/-! ## Lines of one stroke -/

/-- All lines of a list that meet a rectangle, in order of their numbers. -/
def ShowsLines (lines : ℤ → Set (ℝ × ℝ)) (r : PixelRect ℝ) (parts : List (Set (ℝ × ℝ))) : Prop :=
  ∃ numbers : List ℤ, numbers.Pairwise (· < ·) ∧
    (∀ k, (lines k ∩ r.area).Nonempty → k ∈ numbers) ∧
    parts = numbers.map (lines · ∩ r.area)

/-- The lines on which some measure takes the multiples of a step. -/
theorem showsLines_multiples {r : PixelRect ℝ} {lines : ℤ → Set (ℝ × ℝ)} (measure : ℝ × ℝ → ℝ)
    {low high step : ℝ} {ends : ℝ → (ℝ × ℝ) × (ℝ × ℝ)} (hstep : 8 / 2 ^ 32 ≤ step)
    (hlow : |low| ≤ 2 ^ 33) (hhigh : |high| ≤ 2 ^ 33)
    (hlines : ∀ k, lines k = {p | measure p = k * step})
    (hmeasure : ∀ p ∈ r.area, low ≤ measure p ∧ measure p ≤ high)
    (hends : ∀ c, inked (ends c) ∩ r.area = {p | measure p = c} ∩ r.area) :
    ShowsLines lines r (((multiples low high step).map ends).map (inked · ∩ r.area)) := by
  refine ⟨wholeRange (Quantity.ceil (low / step)) (Quantity.floor (high / step)),
    pairwise_wholeRange _ _, ?_, ?_⟩
  · rintro k ⟨p, hp, hinside⟩
    rw [hlines] at hp
    rw [mem_wholeRange_div hstep hlow hhigh, ← show measure p = k * step from hp]
    exact hmeasure p hinside
  · rw [multiples, List.map_map, List.map_map]
    refine List.map_congr_left fun k _ => ?_
    simp only [Function.comp_apply, hends, hlines]

theorem showsLines_hatchLines {r : PixelRect ℝ} (inPixels : r.InPixels) (hwidth : r.left ≤ r.right)
    (hheight : r.top ≤ r.bottom) {density : ℕ} (h : density < 2 ^ 32) (stroke : Stroke) :
    ShowsLines (patternLine stroke (hatchSpacing density)) r
      ((hatchLines r stroke density).map (inked · ∩ r.area)) := by
  have hstep := le_hatchSpacing (K := ℝ) h
  have hdiagonal : 8 / 2 ^ 32 ≤ hatchSpacing density * √2 :=
    hstep.trans (le_mul_of_one_le_right (hatchSpacing_pos density).le
      (Real.one_le_sqrt.mpr one_le_two))
  have hleft := abs_le_of_mem_pixels inPixels.left
  have htop := abs_le_of_mem_pixels inPixels.top
  have hright := abs_le_of_mem_pixels inPixels.right
  have hbottom := abs_le_of_mem_pixels inPixels.bottom
  have hsum {x y : ℝ} (hx : |x| ≤ 2 ^ 31) (hy : |y| ≤ 2 ^ 31) : |x + y| ≤ 2 ^ 33 :=
    (abs_add_le x y).trans (by linarith)
  have hdifference {x y : ℝ} (hx : |x| ≤ 2 ^ 31) (hy : |y| ≤ 2 ^ 31) : |x - y| ≤ 2 ^ 33 :=
    (abs_sub x y).trans (by linarith)
  cases stroke with
  | vertical =>
    exact showsLines_multiples Prod.fst hstep (hleft.trans (by norm_num))
      (hright.trans (by norm_num)) (fun _ => rfl) (fun _ hp => ⟨hp.1.1, hp.2.1⟩)
      (inked_vertical hheight)
  | horizontal =>
    exact showsLines_multiples Prod.snd hstep (htop.trans (by norm_num))
      (hbottom.trans (by norm_num)) (fun _ => rfl) (fun _ hp => ⟨hp.1.2, hp.2.2⟩)
      (inked_horizontal hwidth)
  | forward =>
    exact showsLines_multiples (fun p => p.1 + p.2) hdiagonal (hsum hleft htop)
      (hsum hright hbottom) (fun _ => rfl)
      (fun _ hp => ⟨add_le_add hp.1.1 hp.1.2, add_le_add hp.2.1 hp.2.2⟩) (inked_forward hheight)
  | back =>
    exact showsLines_multiples (fun p => p.2 - p.1) hdiagonal (hdifference htop hright)
      (hdifference hbottom hleft) (fun _ => rfl)
      (fun _ hp => ⟨sub_le_sub hp.1.2 hp.2.1, sub_le_sub hp.2.2 hp.1.1⟩) (inked_back hwidth)
  | dots => exact ⟨[], .nil, fun k hk => by simp [patternLine] at hk, rfl⟩
  | stars => exact ⟨[], .nil, fun k hk => by simp [patternLine] at hk, rfl⟩

/-! ## Hatched rectangles -/

/-- The points that the lines of a hatch cover. -/
def hatched (r : PixelRect ℝ) (stroke : Stroke) (density : ℕ) : Set (ℝ × ℝ) :=
  ⋃ ends ∈ hatchSegments r stroke density, inked ends

section
variable {r : PixelRect ℝ} (inPixels : r.InPixels) (hwidth : r.left ≤ r.right)
  (hheight : r.top ≤ r.bottom) {density : ℕ} (h : density < 2 ^ 32) (stroke : Stroke)

include inPixels hwidth hheight h

/-- Every line that meets the rectangle is drawn once, as far as it is inside. -/
theorem exists_line_numbers : ∃ numbers : List ℤ, numbers.Pairwise (· < ·) ∧
    (∀ k, k ∈ numbers ↔ (patternLine stroke (hatchSpacing density) k ∩ r.area).Nonempty) ∧
    (hatchSegments r stroke density).map inked =
      numbers.map (patternLine stroke (hatchSpacing density) · ∩ r.area) := by
  classical
  obtain ⟨numbers, hsorted, hall, hparts⟩ :=
    showsLines_hatchLines inPixels hwidth hheight h stroke
  let lines := patternLine stroke (hatchSpacing density)
  refine ⟨numbers.filter fun k => (lines k ∩ r.area).Nonempty, hsorted.filter _, ?_, ?_⟩
  · intro k
    simpa [lines] using hall k
  · rw [hatchSegments_inked, hparts, List.filter_map]
    rfl

theorem hatched_eq :
    hatched r stroke density = r.area ∩ ⋃ k, patternLine stroke (hatchSpacing density) k := by
  obtain ⟨numbers, -, hall, hparts⟩ := exists_line_numbers inPixels hwidth hheight h stroke
  ext p
  have hdrawn : p ∈ hatched r stroke density ↔
      ∃ part ∈ (hatchSegments r stroke density).map inked, p ∈ part := by simp [hatched]
  rw [hdrawn, hparts]
  simp only [List.mem_map, Set.mem_inter_iff, Set.mem_iUnion]
  constructor
  · rintro ⟨_, ⟨k, -, rfl⟩, hline, hinside⟩
    exact ⟨hinside, k, hline⟩
  · rintro ⟨hinside, k, hline⟩
    exact ⟨_, ⟨k, (hall k).mpr ⟨p, hline, hinside⟩, rfl⟩, hline, hinside⟩

theorem inked_subset_area {ends : (ℝ × ℝ) × (ℝ × ℝ)}
    (hends : ends ∈ hatchSegments r stroke density) : inked ends ⊆ r.area := by
  have hdrawn : inked ends ⊆ hatched r stroke density :=
    Set.subset_biUnion_of_mem (u := inked) hends
  rw [hatched_eq inPixels hwidth hheight h stroke] at hdrawn
  exact hdrawn.trans Set.inter_subset_left

end

/-- What the segments of a rectangle are in terms of lines over the whole plane. -/
structure ShowsPattern (lines : ℤ → Set (ℝ × ℝ)) (r : PixelRect ℝ) (stroke : Stroke)
    (density : ℕ) : Prop where
  /-- There is one segment for each line that meets the rectangle. -/
  one_each : ∃ numbers : List ℤ, numbers.Pairwise (· < ·) ∧
    (∀ k, k ∈ numbers ↔ (lines k ∩ r.area).Nonempty) ∧
    (hatchSegments r stroke density).map inked = numbers.map (lines · ∩ r.area)
  ends_inside : ∀ ends ∈ hatchSegments r stroke density, ends.1 ∈ r.area ∧ ends.2 ∈ r.area
  cut_vertically : ∀ x ∈ Set.Icc r.left r.right,
    hatched { r with right := x } stroke density ∪ hatched { r with left := x } stroke density =
      hatched r stroke density
  cut_horizontally : ∀ y ∈ Set.Icc r.top r.bottom,
    hatched { r with bottom := y } stroke density ∪ hatched { r with top := y } stroke density =
      hatched r stroke density
  pixels_inside : ∀ a ∈ pixels ×ˢ pixels, ∀ b ∈ pixels ×ˢ pixels, r = .spanning a b →
    ∀ ends ∈ hatchSegments r stroke density,
      pixelPoint ends.1 ∈ Set.uIcc a b ∧ pixelPoint ends.2 ∈ Set.uIcc a b

/-- A rectangle shows its part of a pattern over the whole plane. -/
theorem showsPattern_hatchSegments (r : PixelRect ℝ) (inPixels : r.InPixels)
    (hwidth : r.left ≤ r.right) (hheight : r.top ≤ r.bottom) (stroke : Stroke) (density : ℕ)
    (h : density < 2 ^ 32) :
    ShowsPattern (patternLine stroke (8 / (max density 1 : ℕ))) r stroke density := by
  rw [← hatchSpacing_eq]
  have hinside (ends : (ℝ × ℝ) × (ℝ × ℝ)) (hends : ends ∈ hatchSegments r stroke density) :
      ends.1 ∈ r.area ∧ ends.2 ∈ r.area := by
    have hsubset := inked_subset_area inPixels hwidth hheight h stroke hends
    exact ⟨hsubset (left_mem_segment ℝ _ _), hsubset (right_mem_segment ℝ _ _)⟩
  refine ⟨exists_line_numbers inPixels hwidth hheight h stroke, hinside, ?_, ?_, ?_⟩
  · intro x hx
    have hpixel := mem_pixels_of_between inPixels.left inPixels.right hx
    have hfirst : { r with right := x }.InPixels :=
      ⟨inPixels.left, inPixels.top, hpixel, inPixels.bottom⟩
    have hlast : { r with left := x }.InPixels :=
      ⟨hpixel, inPixels.top, inPixels.right, inPixels.bottom⟩
    rw [hatched_eq hfirst hx.1 hheight h, hatched_eq hlast hx.2 hheight h,
      hatched_eq inPixels hwidth hheight h, ← Set.union_inter_distrib_right,
      r.area_cut_vertically hx]
  · intro y hy
    have hpixel := mem_pixels_of_between inPixels.top inPixels.bottom hy
    have hfirst : { r with bottom := y }.InPixels :=
      ⟨inPixels.left, inPixels.top, inPixels.right, hpixel⟩
    have hlast : { r with top := y }.InPixels :=
      ⟨inPixels.left, hpixel, inPixels.right, inPixels.bottom⟩
    rw [hatched_eq hfirst hwidth hy.1 h, hatched_eq hlast hwidth hy.2 h,
      hatched_eq inPixels hwidth hheight h, ← Set.union_inter_distrib_right,
      r.area_cut_horizontally hy]
  · rintro a ha b hb rfl ends hends
    obtain ⟨hfirst, hlast⟩ := hinside ends hends
    exact ⟨pixelPoint_mem_uIcc ha hb hfirst, pixelPoint_mem_uIcc ha hb hlast⟩

/-- A line that meets a rectangle left of the origin in a corner only is drawn as that point. -/
theorem showsPattern_corner :
    let r : PixelRect ℝ := .spanning (-16, 4) (-4, -10)
    r.InPixels ∧ (r.left ≤ r.right ∧ r.top ≤ r.bottom) ∧
      ShowsPattern (patternLine .forward (8 / 3)) r .forward 3 ∧
      ∃ ends ∈ hatchSegments r .forward 3, inked ends = {(-4, 4)} := by
  intro r
  have hpixels : r.InPixels :=
    PixelRect.inPixels_spanning (by norm_num [mem_pixels_iff]) (by norm_num [mem_pixels_iff])
  have hordered := PixelRect.spanning_ordered (K := ℝ) (-16, 4) (-4, -10)
  have hshows := showsPattern_hatchSegments r hpixels hordered.1 hordered.2 .forward 3 (by norm_num)
  norm_num at hshows
  have hpart : patternLine .forward (8 / 3) 0 ∩ r.area = {(-4, 4)} := by
    have hr : r = ⟨-16, -10, -4, 4⟩ := by norm_num [r, PixelRect.spanning]
    ext ⟨x, y⟩
    rw [hr]
    simp only [patternLine, PixelRect.area, Set.mem_inter_iff, Set.mem_ofPred_eq, Set.mem_Icc,
      Prod.le_def, Set.mem_singleton_iff, Prod.mk.injEq, Int.cast_zero, zero_mul]
    constructor
    · rintro ⟨hline, -, hright, hbottom⟩
      constructor <;> linarith
    · rintro ⟨rfl, rfl⟩
      norm_num
  obtain ⟨numbers, -, hall, hparts⟩ := hshows.one_each
  have hzero : 0 ∈ numbers := (hall 0).mpr (hpart ▸ Set.singleton_nonempty _)
  obtain ⟨ends, hends, hinked⟩ := List.mem_map.mp (hparts ▸ List.mem_map_of_mem hzero)
  exact ⟨hpixels, hordered, hshows, ends, hends, hinked.trans hpart⟩

end BenchCharts.Geometry

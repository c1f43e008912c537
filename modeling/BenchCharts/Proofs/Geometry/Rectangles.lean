import Mathlib.Order.Interval.Set.UnorderedInterval
import Mathlib.Tactic.Linarith
import BenchCharts.Geometry.Hatching
import BenchCharts.Geometry.Outline
import BenchCharts.Proofs.ExactArithmetic

/-!
Rectangles of pixels in exact arithmetic. Their coordinates are so small, and the lines of a hatch
so far apart even where it is dense, that no number of a line leaves the range of its type. Rounding
to pixels keeps the order of coordinates, and so leads out of no rectangle with whole corners.
-/
namespace BenchCharts.Geometry

/-- The coordinates that a pixel can have. -/
def pixels {R : Type} [Ring R] [LE R] : Set R :=
  {x | (Int32.minValue.toInt : R) ≤ x ∧ x ≤ (Int32.maxValue.toInt : R)}

section
variable {R : Type} [Ring R] [LinearOrder R]

theorem mem_pixels_iff {x : R} : x ∈ pixels ↔ -2 ^ 31 ≤ x ∧ x ≤ 2 ^ 31 - 1 := by
  rw [pixels, Set.mem_ofPred_eq, Int32.toInt_minValue, Int32.toInt_maxValue]
  norm_num

theorem mem_pixels_of_between {x low high : R} (hlow : low ∈ pixels) (hhigh : high ∈ pixels)
    (h : x ∈ Set.Icc low high) : x ∈ pixels := ⟨hlow.1.trans h.1, h.2.trans hhigh.2⟩

variable [IsStrictOrderedRing R]

theorem intCast_mem_pixels {n : ℤ} : (n : R) ∈ pixels ↔ n ∈ pixels := by
  simp only [pixels, Set.mem_ofPred_eq, Int.cast_le, Int.cast_id]

theorem abs_le_of_mem_pixels {x : R} (h : x ∈ pixels) : |x| ≤ 2 ^ 31 := by
  obtain ⟨hlow, hhigh⟩ := mem_pixels_iff.mp h
  exact abs_le.mpr ⟨hlow, hhigh.trans (sub_le_self _ zero_le_one)⟩

end

namespace PixelRect

section
variable {K : Type}

/-- The points of a rectangle with its edges. -/
def area [Preorder K] (r : PixelRect K) : Set (K × K) :=
  Set.Icc (r.left, r.top) (r.right, r.bottom)

theorem area_eq_prod [Preorder K] (r : PixelRect K) :
    r.area = Set.Icc r.left r.right ×ˢ Set.Icc r.top r.bottom := (Set.Icc_prod_Icc ..).symm

theorem area_cut_vertically [LinearOrder K] (r : PixelRect K) {x : K}
    (h : x ∈ Set.Icc r.left r.right) :
    { r with right := x }.area ∪ { r with left := x }.area = r.area := by
  simp only [area_eq_prod, ← Set.union_prod, Set.Icc_union_Icc_eq_Icc h.1 h.2]

theorem area_cut_horizontally [LinearOrder K] (r : PixelRect K) {y : K}
    (h : y ∈ Set.Icc r.top r.bottom) :
    { r with bottom := y }.area ∪ { r with top := y }.area = r.area := by
  simp only [area_eq_prod, ← Set.prod_union, Set.Icc_union_Icc_eq_Icc h.1 h.2]

/-- All coordinates of a rectangle are those of pixels. -/
structure InPixels [Ring K] [LE K] (r : PixelRect K) : Prop where
  left : r.left ∈ pixels
  top : r.top ∈ pixels
  right : r.right ∈ pixels
  bottom : r.bottom ∈ pixels

end

end PixelRect

/-! ## Whole numbers -/

theorem pairwise_wholeRange (first last : ℤ) : (wholeRange first last).Pairwise (· < ·) := by
  rw [wholeRange, List.pairwise_map]
  exact List.pairwise_lt_range.imp fun h => by omega

section
variable {K : Type} [Field K] [LinearOrder K] [FloorRing K] [IsStrictOrderedRing K]

theorem ceil_eq {x : K} (h : |x| ≤ 2 ^ 62) : Quantity.ceil x = ⌈x⌉ := by
  obtain ⟨hlow, hhigh⟩ := abs_le.mp h
  have hceil_low : -2 ^ 62 ≤ ⌈x⌉ := by exact_mod_cast hlow.trans (Int.le_ceil x)
  have hceil_high : ⌈x⌉ ≤ 2 ^ 62 := Int.ceil_le.mpr (by exact_mod_cast hhigh)
  change max Int64.minValue.toInt (min ⌈x⌉ Int64.maxValue.toInt) = ⌈x⌉
  rw [Int64.toInt_minValue, Int64.toInt_maxValue]
  omega

theorem floor_eq {x : K} (h : |x| ≤ 2 ^ 62) : Quantity.floor x = ⌊x⌋ := by
  obtain ⟨hlow, hhigh⟩ := abs_le.mp h
  have hfloor_low : -2 ^ 62 ≤ ⌊x⌋ := Int.le_floor.mpr (by exact_mod_cast hlow)
  have hfloor_high : ⌊x⌋ ≤ 2 ^ 62 := by exact_mod_cast (Int.floor_le x).trans hhigh
  change max Int64.minValue.toInt (min ⌊x⌋ Int64.maxValue.toInt) = ⌊x⌋
  rw [Int64.toInt_minValue, Int64.toInt_maxValue]
  omega

theorem hatchSpacing_eq (density : ℕ) : (hatchSpacing density : K) = 8 / (max density 1 : ℕ) := by
  simp [hatchSpacing]

theorem hatchSpacing_pos (density : ℕ) : (0 : K) < hatchSpacing density := by
  rw [hatchSpacing_eq]
  positivity

/-- Lines are never so close that their numbers get too large. -/
theorem le_hatchSpacing {density : ℕ} (h : density < 2 ^ 32) :
    8 / 2 ^ 32 ≤ (hatchSpacing density : K) := by
  have hmost : ((max density 1 : ℕ) : K) ≤ 2 ^ 32 := by
    exact_mod_cast max_le h.le (by norm_num)
  rw [hatchSpacing_eq]
  gcongr

/-- The multiples of a step between two bounds, when the step is not too small. -/
theorem mem_wholeRange_div {low high step : K} (hstep : 8 / 2 ^ 32 ≤ step) (hlow : |low| ≤ 2 ^ 33)
    (hhigh : |high| ≤ 2 ^ 33) (k : ℤ) :
    k ∈ wholeRange (Quantity.ceil (low / step)) (Quantity.floor (high / step)) ↔
      low ≤ k * step ∧ k * step ≤ high := by
  have hpositive : 0 < step := lt_of_lt_of_le (by norm_num) hstep
  -- such a step fits into a bound at most `2 ^ 33 / (8 / 2 ^ 32)` times
  have hquotient {x : K} (h : |x| ≤ 2 ^ 33) : |x / step| ≤ 2 ^ 62 := by
    rw [abs_div, abs_of_pos hpositive, div_le_iff₀ hpositive]
    linarith
  rw [mem_wholeRange, ceil_eq (hquotient hlow), floor_eq (hquotient hhigh), Int.ceil_le,
    Int.le_floor, div_le_iff₀ hpositive, le_div_iff₀ hpositive]

/-! ## Rectangles with whole corners -/

theorem PixelRect.inPixels_spanning {a b : ℤ × ℤ} (ha : a ∈ pixels ×ˢ pixels)
    (hb : b ∈ pixels ×ˢ pixels) : (spanning a b : PixelRect K).InPixels where
  left := intCast_mem_pixels.mpr (min_rec' (· ∈ pixels) ha.1 hb.1)
  top := intCast_mem_pixels.mpr (min_rec' (· ∈ pixels) ha.2 hb.2)
  right := intCast_mem_pixels.mpr (max_rec' (· ∈ pixels) ha.1 hb.1)
  bottom := intCast_mem_pixels.mpr (max_rec' (· ∈ pixels) ha.2 hb.2)

theorem PixelRect.spanning_ordered (a b : ℤ × ℤ) :
    (spanning a b : PixelRect K).left ≤ (spanning a b).right ∧
      (spanning a b : PixelRect K).top ≤ (spanning a b).bottom :=
  ⟨Int.cast_le.mpr min_le_max, Int.cast_le.mpr min_le_max⟩

theorem toPixel_mono {x y : K} (h : x ≤ y) : toPixel x ≤ toPixel y := by
  have hround {x y : K} (h : x ≤ y) : round x ≤ round y := by
    rw [round_eq, round_eq]
    gcongr
  have hnonneg {x : K} (h : 0 ≤ x) : 0 ≤ round x := round_zero (α := K) ▸ hround h
  change max _ (min (if 0 ≤ x then round x else -round (-x)) _) ≤
    max _ (min (if 0 ≤ y then round y else -round (-y)) _)
  gcongr
  split_ifs with hx hy hy
  · exact hround h
  · exact absurd (hx.trans h) hy
  · exact (neg_nonpos.mpr (hnonneg (neg_nonneg.mpr (not_le.mp hx).le))).trans (hnonneg hy)
  · exact neg_le_neg (hround (neg_le_neg h))

theorem toPixel_intCast {n : ℤ} (h : n ∈ pixels) : toPixel (n : K) = n := by
  have hround : (if 0 ≤ (n : K) then round (n : K) else -round (-(n : K))) = n := by
    rw [← Int.cast_neg, round_intCast, round_intCast, neg_neg, ite_self]
  rw [pixels, Set.mem_ofPred_eq, Int.cast_id, Int.cast_id] at h
  change max Int32.minValue.toInt (min _ Int32.maxValue.toInt) = n
  rw [hround, min_eq_left h.2, max_eq_right h.1]

/-- The pixels of points inside are inside. -/
theorem pixelPoint_mem_uIcc {a b : ℤ × ℤ} (ha : a ∈ pixels ×ˢ pixels) (hb : b ∈ pixels ×ˢ pixels)
    {p : K × K} (h : p ∈ (PixelRect.spanning a b).area) : pixelPoint p ∈ Set.uIcc a b := by
  have hmin {m n : ℤ} := min_rec' (a := m) (b := n) (· ∈ pixels)
  have hmax {m n : ℤ} := max_rec' (a := m) (b := n) (· ∈ pixels)
  refine ⟨⟨?_, ?_⟩, ?_, ?_⟩
  · exact (toPixel_intCast (hmin ha.1 hb.1)).symm.trans_le (toPixel_mono h.1.1)
  · exact (toPixel_intCast (hmin ha.2 hb.2)).symm.trans_le (toPixel_mono h.1.2)
  · exact (toPixel_mono h.2.1).trans_eq (toPixel_intCast (hmax ha.1 hb.1))
  · exact (toPixel_mono h.2.2).trans_eq (toPixel_intCast (hmax ha.2 hb.2))

end

end BenchCharts.Geometry

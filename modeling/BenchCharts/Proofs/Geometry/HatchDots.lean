import BenchCharts.Proofs.Geometry.Rectangles

/-!
Dots and stars of a hatch. Their centers are points of one staggered grid over the whole plane, and
a rectangle has those that lie in it or on its edges.
-/
namespace BenchCharts.Geometry

section
variable {K : Type} [Field K] [LinearOrder K]

/-- How far a row is shifted: odd rows by half the distance. -/
def rowOffset (spacing : K) (row : ℤ) : K := if Even row then 0 else spacing / (2 : ℕ)

def gridPoint (spacing : K) (column row : ℤ) : K × K :=
  (column * spacing + rowOffset spacing row, row * spacing)

/-- The centers over the whole plane. -/
def staggeredGrid (spacing : K) : Set (K × K) :=
  {p | ∃ row column : ℤ, gridPoint spacing column row = p}

/-- The order of reading: by rows, and by columns within a row. -/
def Precedes (p q : K × K) : Prop := p.2 < q.2 ∨ p.2 = q.2 ∧ p.1 < q.1

omit [Field K] in
theorem Precedes.ne {p q : K × K} (h : Precedes p q) : p ≠ q := by
  rintro rfl
  exact h.elim (lt_irrefl _) fun h => lt_irrefl _ h.2

end

section
variable {K : Type} [Field K] [LinearOrder K] [FloorRing K] [IsStrictOrderedRing K]
variable {r : PixelRect K} {density : ℕ}

theorem hatchSpacing_le (density : ℕ) : (hatchSpacing density : K) ≤ 8 := by
  rw [hatchSpacing_eq]
  exact div_le_self (by norm_num) (by exact_mod_cast le_max_right density 1)

theorem abs_sub_rowOffset_le {x : K} (hx : x ∈ pixels) (row : ℤ) :
    |x - rowOffset (hatchSpacing density) row| ≤ 2 ^ 33 := by
  have hoffset : |rowOffset (hatchSpacing density : K) row| ≤ 8 := by
    have hpositive : (0 : K) < hatchSpacing density := hatchSpacing_pos density
    unfold rowOffset
    split
    · norm_num
    · rw [Nat.cast_ofNat, abs_of_pos (half_pos hpositive)]
      exact (half_le_self hpositive.le).trans (hatchSpacing_le density)
  calc |x - rowOffset (hatchSpacing density) row|
      ≤ |x| + |rowOffset (hatchSpacing density) row| := abs_sub _ _
    _ ≤ 2 ^ 31 + 8 := add_le_add (abs_le_of_mem_pixels hx) hoffset
    _ ≤ 2 ^ 33 := by norm_num

omit [IsStrictOrderedRing K] in
/-- Which rows and which places in a row a rectangle has. -/
theorem hatchPoints_eq (r : PixelRect K) (density : ℕ) :
    let spacing : K := hatchSpacing density
    hatchPoints r density =
      (wholeRange (Quantity.ceil (r.top / spacing)) (Quantity.floor (r.bottom / spacing))).flatMap
        fun row =>
          (wholeRange (Quantity.ceil ((r.left - rowOffset spacing row) / spacing))
            (Quantity.floor ((r.right - rowOffset spacing row) / spacing))).map
              (gridPoint spacing · row) := by
  simp only [hatchPoints, gridPoint, rowOffset, Int.even_iff]

theorem mem_hatchPoints (inPixels : r.InPixels) (h : density < 2 ^ 32) (p : K × K) :
    p ∈ hatchPoints r density ↔ p ∈ staggeredGrid (hatchSpacing density) ∧ p ∈ r.area := by
  have hstep := le_hatchSpacing (K := K) h
  have hbound {x : K} (hx : x ∈ pixels) : |x| ≤ 2 ^ 33 :=
    (abs_le_of_mem_pixels hx).trans (by norm_num)
  simp only [hatchPoints_eq, List.mem_flatMap, List.mem_map,
    mem_wholeRange_div hstep (hbound inPixels.top) (hbound inPixels.bottom),
    mem_wholeRange_div hstep (abs_sub_rowOffset_le inPixels.left _)
      (abs_sub_rowOffset_le inPixels.right _), sub_le_iff_le_add, le_sub_iff_add_le]
  constructor
  · rintro ⟨row, ⟨htop, hbottom⟩, column, ⟨hleft, hright⟩, rfl⟩
    exact ⟨⟨row, column, rfl⟩, ⟨hleft, htop⟩, hright, hbottom⟩
  · rintro ⟨⟨row, column, rfl⟩, ⟨hleft, htop⟩, hright, hbottom⟩
    exact ⟨row, ⟨htop, hbottom⟩, column, ⟨hleft, hright⟩, rfl⟩

theorem pairwise_hatchPoints (r : PixelRect K) (density : ℕ) :
    (hatchPoints r density).Pairwise Precedes := by
  have hpositive := hatchSpacing_pos (K := K) density
  rw [hatchPoints_eq, List.pairwise_flatMap]
  refine ⟨fun row _ => ?_, ?_⟩
  · rw [List.pairwise_map]
    refine (pairwise_wholeRange _ _).imp fun hless => .inr ⟨rfl, ?_⟩
    simp only [gridPoint]
    gcongr
  · refine (pairwise_wholeRange _ _).imp fun hless p hp q hq => .inl ?_
    obtain ⟨_, _, rfl⟩ := List.mem_map.mp hp
    obtain ⟨_, _, rfl⟩ := List.mem_map.mp hq
    simp only [gridPoint]
    gcongr

/-- What the centers of a rectangle are in terms of a grid over the whole plane. -/
structure ShowsGrid (grid : Set (K × K)) (r : PixelRect K) (density : ℕ) : Prop where
  mem_iff : ∀ p, p ∈ hatchPoints r density ↔ p ∈ grid ∧ p ∈ r.area
  sorted : (hatchPoints r density).Pairwise Precedes
  nodup : (hatchPoints r density).Nodup
  of_empty : r.right < r.left ∨ r.bottom < r.top → hatchPoints r density = []
  /-- A rectangle and the one to its right have only the centers on their edge in common. -/
  beside : ∀ other : PixelRect K, other.InPixels → other.left = r.right →
    r.left ≤ r.right → other.left ≤ other.right → ∀ p,
      p ∈ hatchPoints r density ∧ p ∈ hatchPoints other density ↔
        p ∈ grid ∧ p.1 = r.right ∧ p.2 ∈ Set.Icc r.top r.bottom ∩ Set.Icc other.top other.bottom
  /-- A rectangle and the one below have only the centers on their edge in common. -/
  below : ∀ other : PixelRect K, other.InPixels → other.top = r.bottom →
    r.top ≤ r.bottom → other.top ≤ other.bottom → ∀ p,
      p ∈ hatchPoints r density ∧ p ∈ hatchPoints other density ↔
        p ∈ grid ∧ p.2 = r.bottom ∧ p.1 ∈ Set.Icc r.left r.right ∩ Set.Icc other.left other.right

/-- The centers of a rectangle are the points of the grid inside, row by row. -/
theorem showsGrid_hatchPoints (r : PixelRect K) (inPixels : r.InPixels) (density : ℕ)
    (h : density < 2 ^ 32) : ShowsGrid (staggeredGrid (8 / (max density 1 : ℕ) : K)) r density := by
  rw [← hatchSpacing_eq]
  have hmem := mem_hatchPoints inPixels h
  have hsorted := pairwise_hatchPoints r density
  refine ⟨hmem, hsorted, hsorted.imp Precedes.ne, ?_, ?_, ?_⟩
  · intro hempty
    refine List.eq_nil_iff_forall_not_mem.mpr fun p hp => ?_
    obtain ⟨⟨hleft, htop⟩, hright, hbottom⟩ := ((hmem p).mp hp).2
    exact hempty.elim (hleft.trans hright).not_gt (htop.trans hbottom).not_gt
  · intro other hother edge hr hordered p
    rw [hmem, mem_hatchPoints hother h, ← and_and_left, ← Set.mem_inter_iff, r.area_eq_prod,
      other.area_eq_prod, Set.prod_inter_prod, edge,
      Set.Icc_inter_Icc_eq_singleton hr (edge ▸ hordered)]
    rfl
  · intro other hother edge hr hordered p
    rw [hmem, mem_hatchPoints hother h, ← and_and_left, ← Set.mem_inter_iff, r.area_eq_prod,
      other.area_eq_prod, Set.prod_inter_prod, edge,
      Set.Icc_inter_Icc_eq_singleton hr (edge ▸ hordered), and_comm (a := p.2 = _)]
    rfl

end

/-- Rows and columns left of and above the origin, with one center on the edge to a neighbor. -/
theorem showsGrid_negative_rows :
    let r : PixelRect ℚ := ⟨-9, -17, 0, 0⟩
    let other : PixelRect ℚ := ⟨0, -9, 9, 5⟩
    r.InPixels ∧ other.InPixels ∧
      hatchPoints r 1 = [(-8, -16), (0, -16), (-4, -8), (-8, 0), (0, 0)] ∧
      ShowsGrid (staggeredGrid 8) r 1 ∧
      ((0, 0) ∈ hatchPoints r 1 ∧ (0, 0) ∈ hatchPoints other 1 ↔
        (0, 0) ∈ staggeredGrid (8 : ℚ)) := by
  intro r other
  have hr : r.InPixels := by constructor <;> norm_num [r, mem_pixels_iff]
  have hother : other.InPixels := by constructor <;> norm_num [other, mem_pixels_iff]
  have hshows := showsGrid_hatchPoints r hr 1 (by norm_num)
  norm_num at hshows
  refine ⟨hr, hother, by decide +kernel, hshows, ?_⟩
  rw [hshows.beside other hother rfl (by norm_num [r]) (by norm_num [other])]
  norm_num [r, other]

end BenchCharts.Geometry

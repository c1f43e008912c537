import Mathlib.Data.Set.Lattice
import Mathlib.Order.Interval.Set.LinearOrder
import Mathlib.Order.Lattice.Nat
import Mathlib.Tactic.Linarith
import Mathlib.Tactic.NormNum
import Mathlib.Tactic.Ring
import BenchCharts.Chart.Stacked
import BenchCharts.Proofs.ExactArithmetic

/-!
Bars over their categories, where nothing is rounded. The bars of a category follow each other from
its left end in steps of their width, so they fill the room around it and share nothing but edges.
Groups that are not wider than one unit stay apart from each other and within the axis, and the axis
of a chart without a range of its own reaches beyond all of its bars.
-/
namespace BenchCharts.Chart

open BenchCharts.Geometry (AxisRange)
variable {K : Type}

/-! ## Intervals in a row -/

section
variable [LinearOrder K]

/-- Intervals one after the other that share edges only and fill an interval. -/
structure Tiles (count : Nat) (edges : Nat → K × K) (low high : K) : Prop where
  proper : ∀ i < count, (edges i).1 < (edges i).2
  adjacent : ∀ i, i + 1 < count → (edges i).2 = (edges (i + 1)).1
  apart : ∀ i j, i + 1 < j → j < count → (edges i).2 < (edges j).1
  cover : ⋃ i < count, Set.Icc (edges i).1 (edges i).2 = Set.Icc low high

variable {count : Nat} {edges : Nat → K × K} {low high : K}

theorem Tiles.le_of_lt (h : Tiles count edges low high) {i j : Nat} (hij : i < j)
    (hj : j < count) : (edges i).2 ≤ (edges j).1 := by
  by_cases hnext : i + 1 = j
  · subst hnext
    exact (h.adjacent i hj).le
  · exact (h.apart i j (by omega) hj).le

theorem Tiles.inside (h : Tiles count edges low high) {i : Nat} (hi : i < count) :
    low ≤ (edges i).1 ∧ (edges i).2 ≤ high := by
  have hsubset : Set.Icc (edges i).1 (edges i).2 ⊆ Set.Icc low high := by
    rw [← h.cover]
    exact Set.subset_biUnion_of_mem (u := fun i => Set.Icc (edges i).1 (edges i).2) hi
  rwa [Set.Icc_subset_Icc_iff (h.proper i hi).le] at hsubset

end

section
variable [Field K] [LinearOrder K] [IsStrictOrderedRing K] {edges : Nat → K × K} {low w : K}

theorem iUnion_steps (hw : 0 < w) (hedges : ∀ i : Nat, edges i = (low + i * w, low + (i + 1) * w))
    {m : Nat} (hm : 1 ≤ m) :
    ⋃ i < m, Set.Icc (edges i).1 (edges i).2 = Set.Icc low (low + m * w) := by
  induction m, hm using Nat.le_induction with
  | base => simp [hedges]
  | succ m hm ih =>
    have hleft : low ≤ low + m * w := le_add_of_nonneg_right (by positivity)
    have hright : low + m * w ≤ low + (m + 1) * w := by linarith
    rw [Set.biUnion_lt_succ, ih, hedges m, Set.Icc_union_Icc_eq_Icc hleft hright]
    push_cast
    rfl

theorem tiles_steps (hw : 0 < w) (hedges : ∀ i : Nat, edges i = (low + i * w, low + (i + 1) * w))
    {m : Nat} (hm : 1 ≤ m) : Tiles m edges low (low + m * w) where
  proper i _ := by
    rw [hedges]
    dsimp only
    linarith
  adjacent i _ := by
    rw [hedges, hedges]
    push_cast
    rfl
  apart i j hij _ := by
    have hlt : (i : K) + 1 < j := by exact_mod_cast hij
    rw [hedges, hedges]
    dsimp only
    gcongr
  cover := iUnion_steps hw hedges hm

end

/-! ## Groups -/

variable [Field K] [LinearOrder K] [FloorRing K]

/-- Bars are steps from the left end of their group. -/
theorem barEdges_eq (category index m : Nat) (w : K) :
    barEdges category index m w = (category - m * w / 2 + index * w,
      category - m * w / 2 + (index + 1) * w) := by
  unfold barEdges Geometry.groupOffset
  refine Prod.ext ?_ ?_
  · push_cast
    ring
  · push_cast
    ring

variable [IsStrictOrderedRing K] {m : Nat} {w : K}

theorem tiles_barEdges (hm : 1 ≤ m) (hw : 0 < w) (category : Nat) :
    Tiles m (fun index => barEdges category index m w) (category - m * w / 2)
      (category + m * w / 2) := by
  have htiles := tiles_steps hw (fun index => barEdges_eq category index m w) hm
  have hend : (category - m * w / 2 + m * w : K) = category + m * w / 2 := by ring
  rwa [hend] at htiles

/-- Groups of one unit or less end before those of later categories start. -/
theorem barEdges_le_of_lt (hm : 1 ≤ m) (hw : 0 < w) (hfit : m * w ≤ 1)
    {category category' index index' : Nat} (hlt : category < category') (hindex : index < m)
    (hindex' : index' < m) :
    (barEdges category index m w).2 ≤ (barEdges category' index' m w).1 := by
  have hnext : (category : K) + 1 ≤ category' := by exact_mod_cast hlt
  have hend := ((tiles_barEdges hm hw category).inside hindex).2
  have hstart := ((tiles_barEdges hm hw category').inside hindex').1
  linarith

theorem barEdges_apart (hm : 1 ≤ m) (hw : 0 < w) (hfit : m * w ≤ 1)
    {category category' index index' : Nat} (hindex : index < m) (hindex' : index' < m)
    (hne : (category, index) ≠ (category', index')) :
    (barEdges category index m w).2 ≤ (barEdges category' index' m w).1 ∨
      (barEdges category' index' m w).2 ≤ (barEdges category index m w).1 := by
  rcases lt_trichotomy category category' with hlt | rfl | hlt
  · exact Or.inl (barEdges_le_of_lt hm hw hfit hlt hindex hindex')
  · have htiles := tiles_barEdges hm hw category
    by_cases hlt : index < index'
    · exact Or.inl (htiles.le_of_lt hlt hindex')
    · have hother : index' < index := by
        have hindices : index ≠ index' := fun h => hne (by rw [h])
        omega
      exact Or.inr (htiles.le_of_lt hother hindex)
  · exact Or.inr (barEdges_le_of_lt hm hw hfit hlt hindex' hindex)

/-! ## Axes -/

omit [IsStrictOrderedRing K] in
theorem categoryRange_eq {n : Nat} (hn : 1 ≤ n) :
    (categoryRange n : AxisRange K) = ⟨-(1 / 2), n - 1 / 2⟩ := by
  unfold categoryRange
  rw [max_eq_left hn]
  norm_num

theorem barEdges_inside (hm : 1 ≤ m) (hw : 0 < w) (hfit : m * w ≤ 1) {n category index : Nat}
    (hcategory : category < n) (hindex : index < m) :
    (categoryRange n).min ≤ (barEdges category index m w).1 ∧
      (barEdges category index m w).2 ≤ (categoryRange n).max := by
  have hnonneg : (0 : K) ≤ category := Nat.cast_nonneg category
  have hlast : (category : K) + 1 ≤ n := by exact_mod_cast hcategory
  obtain ⟨hstart, hend⟩ := (tiles_barEdges hm hw category).inside hindex
  rw [categoryRange_eq (by omega)]
  constructor
  · show -(1 / 2) ≤ _
    linarith
  · show _ ≤ (n : K) - 1 / 2
    linarith

omit [IsStrictOrderedRing K] in
theorem le_greatest {values : List K} {greatest : K} (h : greatest? values = some greatest) :
    ∀ v ∈ values, v ≤ greatest := by
  have hfold (rest : List K) (first : K) : first ≤ rest.foldl Quantity.larger first ∧
      ∀ v ∈ rest, v ≤ rest.foldl Quantity.larger first := by
    induction rest generalizing first with
    | nil => simp
    | cons next rest ih =>
      obtain ⟨hfirst, hrest⟩ := ih (max first next)
      rw [List.foldl_cons, List.forall_mem_cons]
      exact ⟨(le_max_left first next).trans hfirst, (le_max_right first next).trans hfirst, hrest⟩
  cases values with
  | nil => simp
  | cons first rest =>
    rw [← Option.some.inj h, List.forall_mem_cons]
    exact hfold rest first

/-- An axis from zero is not empty and reaches to the greatest value at least. -/
theorem zeroBased_covers (values : List K) :
    let range := zeroBased (greatest? values)
    range.min < range.max ∧ ∀ v ∈ values, v ≤ range.max := by
  dsimp only
  cases hgreatest : greatest? values with
  | none =>
    have hnil : values = [] := by
      cases values with
      | nil => rfl
      | cons v rest => contradiction
    subst hnil
    exact ⟨zero_lt_one, by simp⟩
  | some greatest =>
    have hle := le_greatest hgreatest
    unfold zeroBased
    dsimp only
    by_cases hpos : 0 < greatest
    · have hroom : greatest < greatest * 1.05 := lt_mul_of_one_lt_right hpos (by norm_num)
      rw [if_pos hpos]
      exact ⟨hpos.trans hroom, fun v hv => (hle v hv).trans hroom.le⟩
    · have hone : greatest ≤ 1 := (not_lt.mp hpos).trans zero_le_one
      rw [if_neg hpos]
      exact ⟨zero_lt_one, fun v hv => (hle v hv).trans hone⟩

/-- The axis of a grouped chart reaches to the end of every error. -/
theorem Grouped.shownRange_covers (c : Grouped K) (hnone : c.yRange = none) :
    c.shownRange.min < c.shownRange.max ∧ ∀ s ∈ c.series, ∀ bar, some bar ∈ s.bars →
      bar.value + bar.error.getD 0 ≤ c.shownRange.max := by
  obtain ⟨hproper, hcovers⟩ := zeroBased_covers (c.bars.map Bar.top)
  unfold shownRange
  rw [hnone]
  refine ⟨hproper, ?_⟩
  intro s hs bar hbar
  have hmem : bar ∈ c.bars :=
    List.mem_flatMap.mpr ⟨s, hs, List.mem_filterMap.mpr ⟨some bar, hbar, rfl⟩⟩
  exact hcovers bar.top (List.mem_map_of_mem hmem)

/-- The axis of a stacked chart reaches to the top of every phase. -/
theorem Stacked.shownRange_covers (c : Stacked K) :
    c.shownRange.min < c.shownRange.max ∧ ∀ g ∈ c.groups, ∀ t, some t ∈ g.traces →
      ∀ s ∈ t.segments, s.top ≤ c.shownRange.max := by
  obtain ⟨hproper, hcovers⟩ :=
    zeroBased_covers (c.traces.flatMap fun t => t.segments.map (·.top))
  refine ⟨hproper, ?_⟩
  intro g hg t ht s hs
  have hmem : t ∈ c.traces :=
    List.mem_flatMap.mpr ⟨g, hg, List.mem_filterMap.mpr ⟨some t, ht, rfl⟩⟩
  exact hcovers s.top (List.mem_flatMap.mpr ⟨t, hmem, List.mem_map_of_mem hs⟩)

/-- The bars of a category fill the room around it. If they need one unit or less, no bars of a
chart overlap and all are on its axis. No bar of a chart reaches beyond the axis of its values. -/
theorem bars_tile (hm : 1 ≤ m) (hw : 0 < w) (n : Nat) :
    (∀ category, Tiles m (fun index => barEdges category index m w) (category - m * w / 2)
      (category + m * w / 2)) ∧
    (m * w ≤ 1 →
      (∀ category index category' index', index < m → index' < m →
        (category, index) ≠ (category', index') →
        (barEdges category index m w).2 ≤ (barEdges category' index' m w).1 ∨
          (barEdges category' index' m w).2 ≤ (barEdges category index m w).1) ∧
      ∀ category < n, ∀ index < m, (categoryRange n : AxisRange K) = ⟨-(1 / 2), n - 1 / 2⟩ ∧
        (categoryRange n).min ≤ (barEdges category index m w).1 ∧
        (barEdges category index m w).2 ≤ (categoryRange n).max) ∧
    (∀ c : Grouped K, c.yRange = none → c.shownRange.min < c.shownRange.max ∧
      ∀ s ∈ c.series, ∀ bar, some bar ∈ s.bars →
        bar.value + bar.error.getD 0 ≤ c.shownRange.max) ∧
    ∀ c : Stacked K, c.shownRange.min < c.shownRange.max ∧
      ∀ g ∈ c.groups, ∀ t, some t ∈ g.traces → ∀ s ∈ t.segments, s.top ≤ c.shownRange.max := by
  refine ⟨tiles_barEdges hm hw, ?_, Grouped.shownRange_covers, Stacked.shownRange_covers⟩
  intro hfit
  refine ⟨?_, ?_⟩
  · intro category index category' index' hindex hindex' hne
    exact barEdges_apart hm hw hfit hindex hindex' hne
  · intro category hcategory index hindex
    exact ⟨categoryRange_eq (by omega), barEdges_inside hm hw hfit hcategory hindex⟩

/-- A chart of one series, with a bar and a gap in it. -/
def gappedBars : Grouped ℚ where
  categories := ["a", "b"]
  xDescription := "Workload"
  yDescription := "Throughput (KOps/s)"
  barWidth := 1 / 4
  yRange := none
  series := [⟨default, none, [some ⟨3, some 1⟩, none]⟩]

/-- Three bars of a quarter leave an eighth free on both sides. -/
theorem bars_tile_three : ((3 : Nat) * (1 / 4) : ℚ) ≤ 1 ∧
    ⋃ i < 3, Set.Icc (barEdges 1 i 3 (1 / 4 : ℚ)).1 (barEdges 1 i 3 (1 / 4 : ℚ)).2 =
      Set.Icc (5 / 8) (11 / 8) ∧
    ((barEdges 0 2 3 (1 / 4 : ℚ)).2 ≤ (barEdges 1 0 3 (1 / 4 : ℚ)).1 ∨
      (barEdges 1 0 3 (1 / 4 : ℚ)).2 ≤ (barEdges 0 2 3 (1 / 4 : ℚ)).1) ∧
    gappedBars.yRange = none ∧ 4 ≤ gappedBars.shownRange.max := by
  have hwidth : (0 : ℚ) < 1 / 4 := by norm_num
  have hfit : ((3 : Nat) * (1 / 4) : ℚ) ≤ 1 := by norm_num
  obtain ⟨htiles, hapart, hbars, -⟩ := bars_tile (m := 3) (by omega) hwidth 2
  have hlow : ((1 : Nat) - (3 : Nat) * (1 / 4) / 2 : ℚ) = 5 / 8 := by norm_num
  have hhigh : ((1 : Nat) + (3 : Nat) * (1 / 4) / 2 : ℚ) = 11 / 8 := by norm_num
  have hcover := (htiles 1).cover
  rw [hlow, hhigh] at hcover
  have htop := (hbars gappedBars rfl).2 _ List.mem_cons_self ⟨3, some 1⟩ List.mem_cons_self
  have hsum : (3 : ℚ) + (some 1).getD 0 = 4 := by norm_num
  exact ⟨hfit, hcover, (hapart hfit).1 0 2 1 0 (by omega) (by omega) (by simp), rfl, hsum ▸ htop⟩

end BenchCharts.Chart

import Mathlib.Analysis.Convex.Segment
import BenchCharts.Geometry.Clip
import BenchCharts.Proofs.ExactArithmetic

/-!
Cutting a line in exact arithmetic. The parameters of a segment are narrowed to exactly those whose
points lie in the box. While the segments of a line go by, the runs draw the visible part of the
segments so far, and an open run ends where the latest segment did.
-/
namespace BenchCharts.Geometry

/-! ## What is drawn -/

section
variable {K : Type} [Field K] [LinearOrder K] {β : Type}

/-- The straight segment between two points that both have a place. -/
def piece (place : β → Option (K × K)) (p q : β) : Set (K × K) :=
  {x | ∃ a ∈ place p, ∃ b ∈ place q, x ∈ segment K a b}

/-- What is drawn of a line: the segments between neighbours. -/
def traced (place : β → Option (K × K)) (points : List β) : Set (K × K) :=
  {x | ∃ ends ∈ points.zip points.tail, x ∈ piece place ends.1 ends.2}

variable (place : β → Option (K × K))

theorem piece_comm (p q : β) : piece place p q = piece place q p := by
  ext x
  constructor
  · rintro ⟨a, ha, b, hb, between⟩
    exact ⟨b, hb, a, ha, segment_symm K a b ▸ between⟩
  · rintro ⟨a, ha, b, hb, between⟩
    exact ⟨b, hb, a, ha, segment_symm K a b ▸ between⟩

variable {place} in
theorem piece_of_places {p q : β} {a b : K × K} (first : place p = some a)
    (second : place q = some b) : piece place p q = segment K a b := by
  ext x
  simp [piece, first, second]

@[simp]
theorem traced_nil : traced place [] = ∅ := by simp [traced]

@[simp]
theorem traced_singleton (p : β) : traced place [p] = ∅ := by simp [traced]

theorem traced_cons_cons (p q : β) (points : List β) :
    traced place (p :: q :: points) = piece place p q ∪ traced place (q :: points) := by
  ext x
  simp [traced]

theorem traced_append_pair (points : List β) (p q : β) :
    traced place (points ++ [p, q]) = traced place (points ++ [p]) ∪ piece place p q := by
  induction points with
  | nil => simp [traced_cons_cons]
  | cons first rest ih =>
      cases rest with
      | nil => simp [traced_cons_cons]
      | cons second rest =>
          simp only [List.cons_append, traced_cons_cons] at ih ⊢
          rw [ih, Set.union_assoc]

/-- A line is drawn the same way from either end. -/
theorem traced_reverse (points : List β) : traced place points.reverse = traced place points := by
  induction points with
  | nil => rfl
  | cons p rest ih =>
      cases rest with
      | nil => rfl
      | cons q rest =>
          rw [List.reverse_cons] at ih
          rw [List.reverse_cons, List.reverse_cons, List.append_assoc, List.singleton_append,
            traced_append_pair, ih, traced_cons_cons, piece_comm, Set.union_comm]

/-- What is drawn of the closed runs and the open one. -/
def RunScan.drawn (s : RunScan β) : Set (K × K) :=
  (⋃ run ∈ s.closed, traced place run) ∪ traced place s.current

@[simp]
theorem RunScan.drawn_start : (start : RunScan β).drawn place = ∅ := by simp [drawn, start]

/-- Closing the open run draws nothing else: a run of fewer than two points has no segment. -/
@[simp]
theorem RunScan.drawn_close (s : RunScan β) : s.close.drawn place = s.drawn place := by
  unfold close
  split
  · simp [drawn, Set.iUnion_or, Set.iUnion_union_distrib, traced_reverse]
  · next short =>
      match current : s.current with
      | [] => simp [drawn, current]
      | [p] => simp [drawn, current]
      | p :: q :: rest => simp [current] at short

@[simp]
theorem RunScan.close_current (s : RunScan β) : s.close.current = [] := by
  unfold close
  split <;> rfl

/-- The first point of a run draws nothing. -/
theorem RunScan.drawn_push_first {s : RunScan β} (empty : s.current = []) (p : β) :
    (s.push p).drawn place = s.drawn place := by
  simp [drawn, push, empty]

variable {place} in
/-- A later point draws the segment that leads to it. -/
theorem RunScan.drawn_push {s : RunScan β} {q : β} {rest : List β} (latest : s.current = q :: rest)
    {p : β} {a b : K × K} (hq : place q = some a) (hp : place p = some b) :
    (s.push p).drawn place = s.drawn place ∪ segment K a b := by
  simp only [drawn, push, latest, traced_cons_cons, piece_of_places hp hq, segment_symm K b a]
  rw [Set.union_comm (segment K a b), Set.union_assoc]

end

/-! ## The visible parameters of a segment -/

section
variable {K : Type} [Field K] [LinearOrder K] [FloorRing K] [IsStrictOrderedRing K]

/-- The bounds found for a set of parameters: the ends of the interval it is, or nothing when it is
empty. -/
def Bounding (parameters : Set K) : Option (K × K) → Prop
  | none => parameters = ∅
  | some (t0, t1) => t0 ≤ t1 ∧ parameters = Set.Icc t0 t1

/-- One edge of the box keeps exactly the parameters that satisfy its inequality. -/
theorem narrow_bounding {bounds : K × K} (ordered : bounds.1 ≤ bounds.2) (p q : K) :
    Bounding (Set.Icc bounds.1 bounds.2 ∩ {t | p * t ≤ q}) (narrow bounds p q) := by
  unfold narrow
  rcases lt_trichotomy p 0 with falling | rfl | rising
  · have inside (t : K) : p * t ≤ q ↔ q / p ≤ t := by
      rw [div_le_iff_of_neg falling, mul_comm]
    have apart : (p == 0) = false := beq_false_of_ne falling.ne
    simp only [apart, falling, if_true, Bool.false_eq_true, if_false, inside]
    split
    · next beyond =>
        ext t
        simp only [Set.mem_inter_iff, Set.mem_Icc, Set.mem_ofPred_eq, Set.mem_empty_iff_false,
          iff_false, not_and, not_le]
        exact fun within => within.2.trans_lt beyond
    · next reached =>
        refine ⟨max_le ordered (not_lt.mp reached), ?_⟩
        ext t
        simp only [Set.mem_inter_iff, Set.mem_Icc, Set.mem_ofPred_eq, Quantity.larger, max_le_iff]
        tauto
  · simp only [beq_self_eq_true, if_true, zero_mul]
    split
    · next outside =>
        ext t
        simp [not_le.mpr outside]
    · next aside =>
        refine ⟨ordered, ?_⟩
        ext t
        simp [not_lt.mp aside]
  · have inside (t : K) : p * t ≤ q ↔ t ≤ q / p := by rw [le_div_iff₀ rising, mul_comm]
    have apart : (p == 0) = false := beq_false_of_ne rising.ne'
    simp only [apart, rising.not_gt, Bool.false_eq_true, if_false, inside]
    split
    · next before =>
        ext t
        simp only [Set.mem_inter_iff, Set.mem_Icc, Set.mem_ofPred_eq, Set.mem_empty_iff_false,
          iff_false, not_and, not_le]
        exact fun within => before.trans_le within.1
    · next reached =>
        refine ⟨le_min ordered (not_lt.mp reached), ?_⟩
        ext t
        simp only [Set.mem_inter_iff, Set.mem_Icc, Set.mem_ofPred_eq, Quantity.smaller, le_min_iff]
        tauto

/-- Whatever was found for a set of parameters, one more edge narrows both alike. -/
theorem Bounding.narrow {parameters : Set K} {found : Option (K × K)}
    (bounding : Bounding parameters found) (p q : K) :
    Bounding (parameters ∩ {t | p * t ≤ q}) (found.bind (Geometry.narrow · p q)) := by
  cases found with
  | none => simp only [Bounding] at bounding; simp [bounding, Bounding]
  | some bounds =>
      obtain ⟨ordered, rfl⟩ := bounding
      exact narrow_bounding ordered p q

/-- The parameters found for a segment are exactly those of its points in the box. -/
theorem clipParameters_bounding (a b low high : K × K) :
    Bounding (Set.Icc 0 1 ∩ {t | along a b t ∈ Set.Icc low high})
      (clipParameters a b low high) := by
  have whole : Bounding (Set.Icc (0 : K) 1) (some (0, 1)) := ⟨zero_le_one, rfl⟩
  have edges := (((whole.narrow (-(b.1 - a.1)) (a.1 - low.1)).narrow (b.1 - a.1)
    (high.1 - a.1)).narrow (-(b.2 - a.2)) (a.2 - low.2)).narrow (b.2 - a.2) (high.2 - a.2)
  convert edges using 1
  · ext t
    simp only [Set.mem_inter_iff, Set.mem_ofPred_eq, Set.mem_Icc, Prod.le_def, along]
    constructor
    · rintro ⟨range, ⟨left, bottom⟩, right, top⟩
      exact ⟨⟨⟨⟨range, by linarith⟩, by linarith⟩, by linarith⟩, by linarith⟩
    · rintro ⟨⟨⟨⟨range, left⟩, right⟩, bottom⟩, top⟩
      exact ⟨range, ⟨by linarith, by linarith⟩, by linarith, by linarith⟩
  · simp only [clipParameters, Option.bind_eq_bind, Option.bind_some, Option.bind_assoc]

theorem clipParameters_eq_none_iff (a b low high : K × K) :
    clipParameters a b low high = none ↔ ∀ t ∈ Set.Icc 0 1, along a b t ∉ Set.Icc low high := by
  have bounding := clipParameters_bounding a b low high
  cases found : clipParameters a b low high with
  | none =>
      simp only [found, Bounding] at bounding
      refine iff_of_true rfl fun t range inside => ?_
      exact (Set.ext_iff.mp bounding t).mp ⟨range, inside⟩
  | some bounds =>
      obtain ⟨ordered, same⟩ := found ▸ bounding
      have first : bounds.1 ∈ Set.Icc bounds.1 bounds.2 := Set.left_mem_Icc.mpr ordered
      rw [← same] at first
      exact iff_of_false (Option.some_ne_none _) fun outside => outside _ first.1 first.2

/-- A parameter of the segment leads into the box if it is between those found. -/
theorem along_mem_box_iff {a b low high : K × K} {t0 t1 : K}
    (found : clipParameters a b low high = some (t0, t1)) {t : K} (range : t ∈ Set.Icc 0 1) :
    along a b t ∈ Set.Icc low high ↔ t0 ≤ t ∧ t ≤ t1 := by
  have bounding := clipParameters_bounding a b low high
  rw [found] at bounding
  have same := Set.ext_iff.mp bounding.2 t
  rw [Set.mem_inter_iff, and_iff_right range] at same
  exact same

theorem clipParameters_range {a b low high : K × K} {t0 t1 : K}
    (found : clipParameters a b low high = some (t0, t1)) : 0 ≤ t0 ∧ t0 ≤ t1 ∧ t1 ≤ 1 := by
  have bounding := clipParameters_bounding a b low high
  rw [found] at bounding
  obtain ⟨ordered, same⟩ := bounding
  have first : t0 ∈ Set.Icc t0 t1 := Set.left_mem_Icc.mpr ordered
  have last : t1 ∈ Set.Icc t0 t1 := Set.right_mem_Icc.mpr ordered
  rw [← same] at first last
  exact ⟨first.1.1, ordered, last.1.2⟩

/-- What the parameters found for a segment tell of its points. -/
structure Cuts (a b low high : K × K) (found : Option (K × K)) : Prop where
  exists_iff : (∃ t0 t1, found = some (t0, t1)) ↔
    ∃ t ∈ Set.Icc 0 1, along a b t ∈ Set.Icc low high
  range : ∀ t0 t1, found = some (t0, t1) → 0 ≤ t0 ∧ t0 ≤ t1 ∧ t1 ≤ 1
  mem_iff : ∀ t0 t1, found = some (t0, t1) → ∀ t ∈ Set.Icc 0 1,
    (along a b t ∈ Set.Icc low high ↔ t0 ≤ t ∧ t ≤ t1)

/-- The parameters of a segment are found exactly, also for a segment along an edge and for a box
without points. -/
theorem clipParameters_cuts (a b low high : K × K) :
    Cuts a b low high (clipParameters a b low high) where
  exists_iff := by
    have hidden := not_congr (clipParameters_eq_none_iff a b low high)
    push Not at hidden
    rw [← hidden, Option.ne_none_iff_exists']
    simp only [Prod.exists]
  range _ _ found := clipParameters_range found
  mem_iff _ _ found _ range := along_mem_box_iff found range

/-- A segment that touches a box in a corner. It misses the box with left and right exchanged, which
has no points. -/
theorem clipParameters_cuts_corner :
    let a : ℚ × ℚ := (-1, 3)
    let b : ℚ × ℚ := (3, -1)
    clipParameters a b (0, 0) (1, 1) = some (1 / 2, 1 / 2) ∧
      Cuts a b (0, 0) (1, 1) (some (1 / 2, 1 / 2)) ∧
      clipParameters a b (1, 0) (0, 1) = none ∧ Cuts a b (1, 0) (0, 1) none := by
  intro a b
  have touched : clipParameters a b (0, 0) (1, 1) = some (1 / 2, 1 / 2) := by decide +kernel
  have missed : clipParameters a b (1, 0) (0, 1) = none := by decide +kernel
  exact ⟨touched, touched ▸ clipParameters_cuts a b (0, 0) (1, 1), missed,
    missed ▸ clipParameters_cuts a b (1, 0) (0, 1)⟩

omit [IsStrictOrderedRing K] in
theorem along_eq_lineMap (a b : K × K) : along a b = AffineMap.lineMap a b := by
  funext t
  ext <;> simp [along, AffineMap.lineMap_apply] <;> ring

omit [IsStrictOrderedRing K] in
@[simp]
theorem along_zero (a b : K × K) : along a b 0 = a := by simp [along]

omit [IsStrictOrderedRing K] in
@[simp]
theorem along_one (a b : K × K) : along a b 1 = b := by simp [along]

/-- The part of a segment between two parameters is the segment between their points. -/
theorem along_image_Icc (a b : K × K) {t0 t1 : K} (ordered : t0 ≤ t1) :
    along a b '' Set.Icc t0 t1 = segment K (along a b t0) (along a b t1) := by
  rw [along_eq_lineMap, ← segment_eq_Icc ordered, image_segment]

theorem segment_inter_box (a b low high : K × K) :
    segment K a b ∩ Set.Icc low high =
      along a b '' (Set.Icc 0 1 ∩ {t | along a b t ∈ Set.Icc low high}) := by
  have whole := along_image_Icc a b (zero_le_one : (0 : K) ≤ 1)
  rw [along_zero, along_one] at whole
  rw [← whole]
  exact (Set.image_inter_preimage ..).symm

/-- A segment for which no parameters are found is outside the box. -/
theorem segment_hidden {a b low high : K × K} (hidden : clipParameters a b low high = none) :
    segment K a b ∩ Set.Icc low high = ∅ := by
  have bounding := clipParameters_bounding a b low high
  simp only [hidden, Bounding] at bounding
  rw [segment_inter_box, bounding, Set.image_empty]

/-- The visible part of a segment reaches from the point of the first parameter found to that of
the last. -/
theorem segment_visible {a b low high : K × K} {t0 t1 : K}
    (found : clipParameters a b low high = some (t0, t1)) :
    0 ≤ t0 ∧ t1 ≤ 1 ∧
      segment K a b ∩ Set.Icc low high = segment K (along a b t0) (along a b t1) := by
  obtain ⟨positive, ordered, bounded⟩ := clipParameters_range found
  have bounding := clipParameters_bounding a b low high
  rw [found] at bounding
  exact ⟨positive, bounded, by rw [segment_inter_box, bounding.2, along_image_Icc a b ordered]⟩

end

/-! ## The runs of a line -/

section
variable {K : Type} [Field K] [LinearOrder K] [FloorRing K] [IsStrictOrderedRing K] {β : Type}
  {place : β → Option (K × K)} {value : K × K → β}

/-- An open run ends at the point the line has come to. -/
def RunScan.EndsAt (s : RunScan β) (p : β) : Prop := ∀ q ∈ s.current.head?, q = p

omit [IsStrictOrderedRing K] in
/-- Where the visible part of a segment begins, an open run ends: the one that led there, or else a
new one. Nothing is drawn for it. -/
theorem RunScan.drawn_open (places : ∀ x, place (value x) = some x) {s : RunScan β} {p : β}
    (follows : s.EndsAt p) {a b : K × K} (hp : place p = some a) {t0 : K} (range : 0 ≤ t0) :
    let opened := if 0 < t0 then s.close.push (value (along a b t0))
      else if s.current.isEmpty then s.close.push p else s
    opened.drawn place = s.drawn place ∧
      ∃ q rest, opened.current = q :: rest ∧ place q = some (along a b t0) := by
  intro opened
  unfold opened
  split
  · refine ⟨?_, value (along a b t0), [], by simp [push], places _⟩
    rw [drawn_push_first place s.close_current, drawn_close]
  · next first =>
      obtain rfl : t0 = 0 := le_antisymm (not_lt.mp first) range
      rw [along_zero]
      split
      · refine ⟨?_, p, [], by simp [push], hp⟩
        rw [drawn_push_first place s.close_current, drawn_close]
      · next led =>
          cases current : s.current with
          | nil => simp [current] at led
          | cons q rest =>
              obtain rfl : q = p := follows q (by simp [current])
              exact ⟨rfl, q, rest, rfl, hp⟩

/-- One segment adds exactly its visible part to what is drawn. -/
theorem clipStep_drawn (places : ∀ x, place (value x) = some x) (low high : K × K) {s : RunScan β}
    {p q : β} (follows : s.EndsAt p) :
    (clipStep place value low high s (p, q)).drawn place =
        s.drawn place ∪ (piece place p q ∩ Set.Icc low high) ∧
      (clipStep place value low high s (p, q)).EndsAt q := by
  have broken (nothing : piece place p q ∩ Set.Icc low high = ∅) :
      s.close.drawn place = s.drawn place ∪ (piece place p q ∩ Set.Icc low high) ∧
        s.close.EndsAt q := by simp [nothing, RunScan.EndsAt]
  unfold clipStep
  split
  · next a b hp hq =>
      simp only at hp hq
      rw [piece_of_places hp hq] at broken ⊢
      split
      · next hidden => exact broken (segment_hidden hidden)
      · next t0 t1 found =>
          obtain ⟨low_range, high_range, visible⟩ := segment_visible found
          obtain ⟨same, r, rest, latest, hr⟩ :=
            RunScan.drawn_open places follows (b := b) hp low_range
          rw [visible]
          simp only
          split
          · constructor
            · rw [RunScan.drawn_close, RunScan.drawn_push latest hr (places _), same]
            · simp [RunScan.EndsAt]
          · next whole =>
              obtain rfl : t1 = 1 := le_antisymm high_range (not_lt.mp whole)
              constructor
              · rw [along_one, RunScan.drawn_push latest hr hq, same]
              · simp [RunScan.EndsAt, RunScan.push]
  · next missing =>
      refine broken ?_
      ext x
      simp only [piece, Set.mem_inter_iff, Set.mem_ofPred_eq, Set.mem_empty_iff_false, iff_false]
      rintro ⟨⟨a, ha, b, hb, -⟩, -⟩
      exact missing a b ha hb

/-- A whole line adds exactly its visible part. -/
theorem foldl_clipStep_drawn (places : ∀ x, place (value x) = some x) (low high : K × K)
    (p : β) (points : List β) {s : RunScan β} (follows : s.EndsAt p) :
    (((p :: points).zip points).foldl (clipStep place value low high) s).drawn place =
      s.drawn place ∪ (traced place (p :: points) ∩ Set.Icc low high) := by
  induction points generalizing p s with
  | nil => simp
  | cons q rest ih =>
      obtain ⟨drawn, ends⟩ := clipStep_drawn places low high (q := q) follows
      rw [List.zip_cons_cons, List.foldl_cons, ih q ends, drawn, traced_cons_cons,
        Set.union_inter_distrib_right, Set.union_assoc]

/-- The runs of a line draw exactly its visible part. -/
theorem clipRuns_traced (places : ∀ x, place (value x) = some x) (low high : K × K)
    (points : List β) :
    ⋃ run ∈ clipRuns place value low high points, traced place run =
      Set.Icc low high ∩ traced place points := by
  have closed (s : RunScan β) : ⋃ run ∈ s.close.closed, traced place run = s.drawn place := by
    rw [← s.drawn_close place]
    simp [RunScan.drawn]
  unfold clipRuns
  rw [closed]
  cases points with
  | nil => simp
  | cons p points =>
      rw [List.tail_cons, foldl_clipStep_drawn places low high p points (by simp [RunScan.EndsAt,
        RunScan.start]), RunScan.drawn_start, Set.empty_union, Set.inter_comm]

end

/-! ## Windows with linear axes -/

section
variable {K : Type} [Field K] [LinearOrder K]

/-- The straight segments between consecutive points of a line. -/
def polyline (points : List (K × K)) : Set (K × K) :=
  {x | ∃ ends ∈ points.zip points.tail, x ∈ segment K ends.1 ends.2}

theorem traced_some (points : List (K × K)) : traced some points = polyline points := by
  simp [traced, polyline, piece]

/-- The runs of a line in a window are together exactly the part of the line inside the window. -/
theorem Window.clipLine_exact [Elementary ℚ] (x y : AxisRange ℚ) (points : List (ℚ × ℚ)) :
    ⋃ run ∈ (⟨x, .linear, y, .linear⟩ : Window ℚ).clipLine points, polyline run =
      Set.Icc (x.min, y.min) (x.max, y.max) ∩ polyline points := by
  simp only [← traced_some]
  exact clipRuns_traced (fun _ => rfl) _ _ points

end

end BenchCharts.Geometry

import Mathlib.Analysis.SpecialFunctions.Log.Base
import BenchCharts.Geometry.Extent
import BenchCharts.Proofs.ExtendedArithmetic
import BenchCharts.Proofs.RealArithmetic

/-!
The range that an axis takes from values that need not be finite, where nothing is rounded. Only the
least and the greatest of the values with a place on the axis matter. They are moved apart by the
same margin along the axis, so the range is never empty and has all these values inside.
-/
namespace BenchCharts.Geometry

/-! ## The least and the greatest value -/

section
variable {K : Type} [Field K] [LinearOrder K] [FloorRing K]

/-- The bounds of some values after those of a list. -/
theorem foldl_extremes {seen : Set K} {low high : K} (hlow : IsLeast seen low)
    (hhigh : IsGreatest seen high) (xs : List K) :
    let bounds := xs.foldl (fun (low, high) x =>
      (if x < low then x else low, if high < x then x else high)) (low, high)
    IsLeast (seen ∪ {x | x ∈ xs}) bounds.1 ∧ IsGreatest (seen ∪ {x | x ∈ xs}) bounds.2 := by
  induction xs generalizing seen low high with
  | nil => simpa using ⟨hlow, hhigh⟩
  | cons x rest ih =>
    have hseen : seen ∪ {y | y ∈ x :: rest} = insert x seen ∪ {y | y ∈ rest} := by
      ext y
      simp [or_left_comm, or_assoc]
    rw [hseen, List.foldl_cons]
    apply ih
    · rw [← min_def_lt]
      exact hlow.insert x
    · rw [← max_def_lt, max_comm]
      exact hhigh.insert x

variable [Elementary K]

theorem extremes_eq_none_iff {xs : List K} : extremes xs = none ↔ xs = [] := by
  cases xs <;> simp [extremes]

theorem isLeast_of_extremes {xs : List K} {low high : K} (h : extremes xs = some (low, high)) :
    IsLeast {x | x ∈ xs} low ∧ IsGreatest {x | x ∈ xs} high := by
  cases xs with
  | nil => contradiction
  | cons x rest =>
    have hall : ({x} : Set K) ∪ {y | y ∈ rest} = {y | y ∈ x :: rest} := by
      ext y
      simp
    have hbounds := foldl_extremes (isLeast_singleton (a := x)) isGreatest_singleton rest
    rw [Option.some.inj h, hall] at hbounds
    exact hbounds

theorem extremes_eq_some_iff (xs : List K) (low high : K) : extremes xs = some (low, high) ↔
    IsLeast {x | x ∈ xs} low ∧ IsGreatest {x | x ∈ xs} high := by
  refine ⟨isLeast_of_extremes, ?_⟩
  rintro ⟨hlow, hhigh⟩
  cases h : extremes xs with
  | none => simp [extremes_eq_none_iff.mp h, IsLeast] at hlow
  | some bounds =>
    obtain ⟨hlow', hhigh'⟩ := isLeast_of_extremes h
    rw [← hlow'.unique hlow, ← hhigh'.unique hhigh]

/-! ## Finite values among others -/

omit [Elementary K] in
theorem foldl_extremes_finite (low high : K) (xs : List K) :
    (xs.map Extended.finite).foldl (fun (low, high) x =>
        (if x < low then x else low, if high < x then x else high))
        (Extended.finite low, Extended.finite high) =
      Prod.map Extended.finite Extended.finite (xs.foldl (fun (low, high) x =>
        (if x < low then x else low, if high < x then x else high)) (low, high)) := by
  induction xs generalizing low high with
  | nil => rfl
  | cons x rest ih =>
    rw [List.map_cons, List.foldl_cons, List.foldl_cons, ← ih]
    simp only [Extended.finite_lt, apply_ite Extended.finite]

theorem extremes_finite (xs : List K) :
    extremes (xs.map Extended.finite) = (extremes xs).map (Prod.map .finite .finite) := by
  cases xs with
  | nil => rfl
  | cons x rest => exact congrArg some (foldl_extremes_finite x x rest)

theorem margin_finite (scale : Scale) (low high : K) :
    margin scale (Extended.finite low) (.finite high) = .finite (margin scale low high) := by
  have hscientific (mantissa exponent : Nat) :
      (OfScientific.ofScientific mantissa true exponent : Extended K) =
        .finite (OfScientific.ofScientific mantissa true exponent) := rfl
  have habsolute : Quantity.absolute (Extended.finite low) = .finite (Quantity.absolute low) := by
    simp only [Quantity.absolute, Extended.finite_zero, Extended.finite_lt, Extended.neg_finite,
      apply_ite Extended.finite]
  cases scale <;>
    simp only [margin, Extended.finite_lt, Extended.finite_sub, hscientific, Extended.finite_mul,
      habsolute, Extended.larger_finite, apply_ite Extended.finite]

theorem log10_finite {x : K} (h : 0 < x) :
    Analytic.log10 (Extended.finite x) = .finite (Analytic.log10 x) := by
  change (if x < 0 then Extended.undefined
    else if x = 0 then .infinite true else .finite (Elementary.log10 x)) = _
  rw [if_neg h.not_gt, if_neg h.ne']
  rfl

theorem position?_extended (scale : Scale) (v : Extended K) :
    scale.position? v = (v.value?.bind scale.position?).map .finite := by
  cases v with
  | finite x =>
    cases scale with
    | linear => rfl
    | log =>
      have hfinite : Quantity.isFinite (Extended.finite x) = true := rfl
      have hexact : Quantity.isFinite x = true := rfl
      by_cases h : 0 < x <;>
        simp [Scale.position?, Extended.value?, hfinite, hexact, h, log10_finite]
  | infinite negative => cases scale <;> simp [Scale.position?, Quantity.isFinite, Extended.value?]
  | undefined => cases scale <;> simp [Scale.position?, Quantity.isFinite, Extended.value?]

theorem value_finite (scale : Scale) (p : K) :
    scale.value (Extended.finite p) = .finite (scale.value p) := by
  cases scale <;> rfl

/-- Values that are not finite do not matter. -/
theorem paddedExtent_extended (scale : Scale) (values : List (Extended K)) :
    paddedExtent scale values = (paddedExtent scale (values.filterMap Extended.value?)).map
      fun range => ⟨.finite range.min, .finite range.max⟩ := by
  have hpositions : values.filterMap scale.position? =
      ((values.filterMap Extended.value?).filterMap scale.position?).map Extended.finite := by
    simp only [List.filterMap_filterMap, List.map_filterMap, position?_extended]
  rw [paddedExtent, paddedExtent, hpositions, extremes_finite, Option.map_map, Option.map_map]
  congr 1
  funext bounds
  simp [margin_finite, value_finite]

/-! ## Places on an axis -/

/-- The values that have a place on an axis. -/
def usable (scale : Scale) (values : List (Extended K)) : Set K :=
  {x | .finite x ∈ values ∧ (scale = .log → 0 < x)}

/-- Among the values that have a place there are a least and a greatest one. -/
theorem exists_extremes {scale : Scale} {values : List (Extended K)}
    (h : (usable scale values).Nonempty) : ∃ least greatest,
      IsLeast (usable scale values) least ∧ IsGreatest (usable scale values) greatest := by
  let xs := (values.filterMap Extended.value?).filter fun x => scale = .log → 0 < x
  have hxs : {x | x ∈ xs} = usable scale values := by
    ext x
    simp only [xs, usable, Set.mem_ofPred_eq, List.mem_filter, Extended.mem_filterMap_value?,
      decide_eq_true_eq]
  cases hextremes : extremes xs with
  | none =>
    obtain ⟨x, hx⟩ := h
    rw [← hxs] at hx
    have hnil : xs = [] := extremes_eq_none_iff.mp hextremes
    simp [hnil] at hx
  | some bounds => exact ⟨bounds.1, bounds.2, hxs ▸ isLeast_of_extremes hextremes⟩

/-- Where a value with a place on an axis stands. -/
def Scale.place (scale : Scale) (x : K) : K :=
  match scale with
  | .linear => x
  | .log => Elementary.log10 x

theorem position?_eq_some_iff (scale : Scale) (x p : K) :
    scale.position? x = some p ↔ (scale = .log → 0 < x) ∧ scale.place x = p := by
  have hfinite : Quantity.isFinite x = true := rfl
  cases scale with
  | linear => simp [Scale.position?, Scale.place, hfinite]
  | log =>
    by_cases h : 0 < x
    · simp [Scale.position?, Scale.place, hfinite, h, Analytic.log10]
    · simp [Scale.position?, h]

theorem places_eq (scale : Scale) (values : List (Extended K)) :
    {p | p ∈ (values.filterMap Extended.value?).filterMap scale.position?} =
      scale.place '' usable scale values := by
  ext p
  simp only [Set.mem_ofPred_eq, List.mem_filterMap (f := scale.position?),
    Extended.mem_filterMap_value?, position?_eq_some_iff, usable, Set.mem_image, and_assoc]

section
variable {scale : Scale} (exact : scale = .log → Logarithmic K)

include exact

theorem place_lt {x y : K} (hx : scale = .log → 0 < x) (h : x < y) :
    scale.place x < scale.place y := by
  cases scale with
  | linear => exact h
  | log => exact (exact rfl).log10_lt x y (hx rfl) h

theorem value_lt {p q : K} (h : p < q) : scale.value p < scale.value q := by
  cases scale with
  | linear => exact h
  | log => exact (exact rfl).exp10_lt p q h

theorem value_place {x : K} (hx : scale = .log → 0 < x) : scale.value (scale.place x) = x := by
  cases scale with
  | linear => rfl
  | log => exact (exact rfl).exp10_log10 x (hx rfl)

theorem position?_value (p : K) : scale.position? (scale.value p) = some p := by
  rw [position?_eq_some_iff]
  cases scale with
  | linear => exact ⟨nofun, rfl⟩
  | log => exact ⟨fun _ => (exact rfl).exp10_pos p, (exact rfl).log10_exp10 p⟩

theorem strictMonoOn_place (values : List (Extended K)) :
    StrictMonoOn scale.place (usable scale values) :=
  fun _ hx _ _ h => place_lt exact hx.2 h

end

/-! ## Ranges around values -/

theorem paddedExtent_eq_none_iff_usable (scale : Scale) (values : List (Extended K)) :
    paddedExtent scale values = none ↔ usable scale values = ∅ := by
  rw [paddedExtent_extended, Option.map_eq_none_iff, paddedExtent, Option.map_eq_none_iff,
    extremes_eq_none_iff, ← Set.image_eq_empty (f := scale.place), ← places_eq,
    List.eq_nil_iff_forall_not_mem, Set.eq_empty_iff_forall_notMem]
  rfl

/-- The range around values with a given least and greatest one. -/
def rangeAround (scale : Scale) (least greatest : K) : AxisRange K :=
  let low := scale.place least
  let high := scale.place greatest
  let pad := margin scale low high
  ⟨scale.value (low - pad), scale.value (high + pad)⟩

section
variable {scale : Scale} {values others : List (Extended K)} {least greatest : K}
  (exact : scale = .log → Logarithmic K)

include exact

theorem paddedExtent_eq_some (hleast : IsLeast (usable scale values) least)
    (hgreatest : IsGreatest (usable scale values) greatest) :
    paddedExtent scale values = some ⟨.finite (rangeAround scale least greatest).min,
      .finite (rangeAround scale least greatest).max⟩ := by
  have hmono := (strictMonoOn_place exact values).monotoneOn
  have hextremes : extremes ((values.filterMap Extended.value?).filterMap scale.position?) =
      some (scale.place least, scale.place greatest) := by
    rw [extremes_eq_some_iff, places_eq]
    exact ⟨hmono.map_isLeast hleast, hmono.map_isGreatest hgreatest⟩
  rw [paddedExtent_extended, paddedExtent, hextremes]
  rfl

theorem paddedExtent_congr
    (hleast : ∀ x, IsLeast (usable scale others) x ↔ IsLeast (usable scale values) x)
    (hgreatest : ∀ x, IsGreatest (usable scale others) x ↔ IsGreatest (usable scale values) x) :
    paddedExtent scale others = paddedExtent scale values := by
  rcases (usable scale values).eq_empty_or_nonempty with hempty | hnonempty
  · have hothers : usable scale others = ∅ := by
      by_contra hne
      obtain ⟨least, -, h, -⟩ := exists_extremes (Set.nonempty_iff_ne_empty.mpr hne)
      exact Set.notMem_empty least (hempty ▸ ((hleast least).mp h).1)
    rw [(paddedExtent_eq_none_iff_usable scale values).mpr hempty,
      (paddedExtent_eq_none_iff_usable scale others).mpr hothers]
  · obtain ⟨least, greatest, h, h'⟩ := exists_extremes hnonempty
    rw [paddedExtent_eq_some exact h h',
      paddedExtent_eq_some exact ((hleast least).mpr h) ((hgreatest greatest).mpr h')]

theorem paddedExtent_of_subset (hsubset : values ⊆ others)
    (hbetween : ∀ x ∈ usable scale others,
      ∃ low ∈ usable scale values, ∃ high ∈ usable scale values, low ≤ x ∧ x ≤ high) :
    paddedExtent scale others = paddedExtent scale values := by
  have husable : usable scale values ⊆ usable scale others := fun x hx => ⟨hsubset hx.1, hx.2⟩
  apply paddedExtent_congr exact
  · intro x
    constructor
    · intro h
      obtain ⟨low, hlow, -, -, hle, -⟩ := hbetween x h.1
      obtain rfl : low = x := le_antisymm hle (h.2 (husable hlow))
      exact ⟨hlow, fun y hy => h.2 (husable hy)⟩
    · refine fun h => ⟨husable h.1, fun y hy => ?_⟩
      obtain ⟨low, hlow, -, -, hle, -⟩ := hbetween y hy
      exact (h.2 hlow).trans hle
  · intro x
    constructor
    · intro h
      obtain ⟨-, -, high, hhigh, -, hle⟩ := hbetween x h.1
      obtain rfl : high = x := le_antisymm (h.2 (husable hhigh)) hle
      exact ⟨hhigh, fun y hy => h.2 (husable hy)⟩
    · refine fun h => ⟨husable h.1, fun y hy => ?_⟩
      obtain ⟨-, -, high, hhigh, -, hle⟩ := hbetween y hy
      exact hle.trans (h.2 hhigh)

theorem paddedExtent_of_mem_iff (h : ∀ v, v ∈ others ↔ v ∈ values) :
    paddedExtent scale others = paddedExtent scale values := by
  have husable : usable scale others = usable scale values := by
    ext x
    simp only [usable, h]
  exact paddedExtent_congr exact (by simp [husable]) (by simp [husable])

end

/-! ## Margins -/

/-- A range that reaches from the least to the greatest of some values and, along the axis, by the
same margin beyond both. -/
structure Surrounds (scale : Scale) (least greatest : K) (range : AxisRange K) : Prop where
  proper : range.min < range.max
  inside : range.min < least ∧ greatest < range.max
  margins : ∃ low high margin, scale.position? least = some low ∧
    scale.position? greatest = some high ∧ scale.position? range.min = some (low - margin) ∧
    scale.position? range.max = some (high + margin) ∧ 0 < margin ∧
    (least < greatest → margin = (high - low) / 20)

theorem margin_of_lt (scale : Scale) {low high : K} (h : low < high) :
    margin scale low high = (high - low) / 20 := by
  unfold margin
  rw [if_pos h]
  norm_num
  ring

variable [IsStrictOrderedRing K]

theorem margin_pos (scale : Scale) (low high : K) : 0 < margin scale low high := by
  by_cases h : low < high
  · rw [margin_of_lt scale h]
    linarith
  · unfold margin
    rw [if_neg h]
    cases scale with
    | linear =>
      refine lt_max_of_lt_right ?_
      norm_num
    | log => norm_num

theorem surrounds_rangeAround {scale : Scale} {values : List (Extended K)} {least greatest : K}
    (exact : scale = .log → Logarithmic K) (hleast : IsLeast (usable scale values) least)
    (hgreatest : IsGreatest (usable scale values) greatest) :
    Surrounds scale least greatest (rangeAround scale least greatest) := by
  have hpad := margin_pos scale (scale.place least) (scale.place greatest)
  have hbelow : (rangeAround scale least greatest).min < least := by
    conv_rhs => rw [← value_place exact hleast.1.2]
    exact value_lt exact (sub_lt_self _ hpad)
  have habove : greatest < (rangeAround scale least greatest).max := by
    conv_lhs => rw [← value_place exact hgreatest.1.2]
    exact value_lt exact (lt_add_of_pos_right _ hpad)
  refine ⟨?_, ⟨hbelow, habove⟩, ?_⟩
  · exact hbelow.trans_le ((hleast.2 hgreatest.1).trans habove.le)
  · refine ⟨scale.place least, scale.place greatest, _, ?_, ?_, position?_value exact _,
      position?_value exact _, hpad, ?_⟩
    · exact (position?_eq_some_iff scale _ _).mpr ⟨hleast.1.2, rfl⟩
    · exact (position?_eq_some_iff scale _ _).mpr ⟨hgreatest.1.2, rfl⟩
    · exact fun h => margin_of_lt scale (place_lt exact hleast.1.2 h)

/-! ## The range of an axis -/

/-- What the range of an axis says of the values that it is made for. -/
structure Covers (scale : Scale) (values : List (Extended K)) : Prop where
  eq_none_iff : paddedExtent scale values = none ↔ usable scale values = ∅
  eq_some : (usable scale values).Nonempty → ∃ least greatest range,
    IsLeast (usable scale values) least ∧ IsGreatest (usable scale values) greatest ∧
      paddedExtent scale values = some ⟨.finite range.min, .finite range.max⟩ ∧
      Surrounds scale least greatest range ∧
      ∀ x ∈ usable scale values, range.min < x ∧ x < range.max
  /-- Nothing but the least and the greatest value matters. -/
  of_extremes : ∀ others,
    (∀ x, IsLeast (usable scale others) x ↔ IsLeast (usable scale values) x) →
    (∀ x, IsGreatest (usable scale others) x ↔ IsGreatest (usable scale values) x) →
      paddedExtent scale others = paddedExtent scale values
  of_perm : ∀ others, others.Perm values → paddedExtent scale others = paddedExtent scale values
  /-- Values may be repeated. -/
  of_mem_iff : ∀ others, (∀ v, v ∈ others ↔ v ∈ values) →
    paddedExtent scale others = paddedExtent scale values
  /-- Values may be added that have no place, or that lie between others. -/
  of_subset : ∀ others, values ⊆ others →
    (∀ x ∈ usable scale others,
      ∃ low ∈ usable scale values, ∃ high ∈ usable scale values, low ≤ x ∧ x ≤ high) →
      paddedExtent scale others = paddedExtent scale values

/-- The range of an axis has all values with a place on it strictly inside, with even margins. It
depends on the least and the greatest of them only. -/
theorem extent_covers (scale : Scale) (exact : scale = .log → Logarithmic K)
    (values : List (Extended K)) : Covers scale values where
  eq_none_iff := paddedExtent_eq_none_iff_usable scale values
  eq_some h := by
    obtain ⟨least, greatest, hleast, hgreatest⟩ := exists_extremes h
    have hsurrounds := surrounds_rangeAround exact hleast hgreatest
    refine ⟨least, greatest, rangeAround scale least greatest, hleast, hgreatest,
      paddedExtent_eq_some exact hleast hgreatest, hsurrounds, ?_⟩
    obtain ⟨hbelow, habove⟩ := hsurrounds.inside
    intro x hx
    exact ⟨hbelow.trans_le (hleast.2 hx), (hgreatest.2 hx).trans_lt habove⟩
  of_extremes _ hleast hgreatest := paddedExtent_congr exact hleast hgreatest
  of_perm _ h := paddedExtent_of_mem_iff exact fun _ => h.mem_iff
  of_mem_iff _ h := paddedExtent_of_mem_iff exact h
  of_subset _ hsubset hbetween := paddedExtent_of_subset exact hsubset hbetween

end

/-- Three decades of a logarithmic axis, found among values without a place on it. The value in the
middle could have been left out. -/
theorem extent_covers_decades :
    let values : List (Extended ℝ) :=
      [.finite 100, .undefined, .finite (-1), .infinite false, .finite (1 / 10), .finite 0]
    Logarithmic ℝ ∧ ∃ range : AxisRange ℝ,
      paddedExtent .log values = some ⟨.finite range.min, .finite range.max⟩ ∧
      Surrounds .log (1 / 10) 100 range ∧
      paddedExtent .log (.finite 1 :: values) = paddedExtent .log values := by
  intro values
  have hcovers := extent_covers .log (fun _ => logarithmic_real) values
  have husable (x : ℝ) : x ∈ usable .log values ↔ x = 1 / 10 ∨ x = 100 := by
    simp only [usable, values, Set.mem_ofPred_eq, List.mem_cons, Extended.finite.injEq,
      reduceCtorEq, List.not_mem_nil, or_false, false_or, forall_const]
    constructor
    · rintro ⟨rfl | rfl | rfl | rfl, hpositive⟩
      · exact .inr rfl
      · norm_num at hpositive
      · exact .inl rfl
      · exact absurd hpositive (lt_irrefl 0)
    · rintro (rfl | rfl) <;> norm_num
  have hleast : IsLeast (usable .log values) (1 / 10) := by
    refine ⟨(husable _).mpr (.inl rfl), fun x hx => ?_⟩
    rcases (husable x).mp hx with rfl | rfl <;> norm_num
  have hgreatest : IsGreatest (usable .log values) 100 := by
    refine ⟨(husable _).mpr (.inr rfl), fun x hx => ?_⟩
    rcases (husable x).mp hx with rfl | rfl <;> norm_num
  obtain ⟨least, greatest, range, hleast', hgreatest', hextent, hsurrounds, -⟩ :=
    hcovers.eq_some ⟨_, hleast.1⟩
  obtain rfl := hleast'.unique hleast
  obtain rfl := hgreatest'.unique hgreatest
  refine ⟨logarithmic_real, range, hextent, hsurrounds, ?_⟩
  apply hcovers.of_subset _ (List.subset_cons_self _ _)
  rintro x ⟨hx, hpositive⟩
  rcases List.mem_cons.mp hx with hone | hmem
  · obtain rfl : x = 1 := by simpa using hone
    exact ⟨_, hleast.1, _, hgreatest.1, by norm_num, by norm_num⟩
  · exact ⟨x, ⟨hmem, hpositive⟩, x, ⟨hmem, hpositive⟩, le_rfl, le_rfl⟩

end BenchCharts.Geometry

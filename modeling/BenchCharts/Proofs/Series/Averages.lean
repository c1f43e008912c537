import BenchCharts.Proofs.ExtendedArithmetic
import BenchCharts.Proofs.Traversal
import BenchCharts.Series.Point
import Mathlib.Algebra.BigOperators.Group.List.Basic
import Mathlib.Algebra.Order.BigOperators.Group.List
import Mathlib.Tactic.LinearCombination

/-!
What the trials of one configuration are reduced to. Latency and throughput are reduced apart, each
from the trials that have it, and are left out where no trial has it or some value is not finite.
Where nothing is rounded the mean and the variance are those of the finite values that are there,
in whatever order the trials come.
-/
namespace BenchCharts.Series

open Results (Sample)

/-! ## Exact means and variances -/

section
variable {K : Type} [Field K] {xs : List K}

def mean (xs : List K) : K := xs.sum / xs.length

/-- The mean squared difference from the mean. -/
def variance (xs : List K) : K := (xs.map fun x => (x - mean xs) ^ 2).sum / xs.length

theorem sum_sq_sub (xs : List K) (m : K) :
    (xs.map fun x => (x - m) ^ 2).sum =
      (xs.map (· ^ 2)).sum - 2 * m * xs.sum + xs.length * m ^ 2 := by
  induction xs with
  | nil => simp
  | cons x rest ih =>
    simp only [List.map_cons, List.sum_cons, List.length_cons, Nat.cast_succ, ih]
    ring

theorem mean_perm {ys : List K} (h : xs.Perm ys) : mean xs = mean ys := by
  rw [mean, mean, h.sum_eq, h.length_eq]

theorem variance_perm {ys : List K} (h : xs.Perm ys) : variance xs = variance ys := by
  rw [variance, variance, mean_perm h, (h.map _).sum_eq, h.length_eq]

variable [LinearOrder K] [IsStrictOrderedRing K]

theorem length_pos_cast (hne : xs ≠ []) : 0 < (xs.length : K) :=
  Nat.cast_pos.mpr (List.length_pos_iff.mpr hne)

theorem length_mul_mean (hne : xs ≠ []) : xs.length * mean xs = xs.sum :=
  mul_div_cancel₀ _ (length_pos_cast hne).ne'

theorem le_mean {lo : K} (hne : xs ≠ []) (h : ∀ x ∈ xs, lo ≤ x) : lo ≤ mean xs := by
  rw [mean, le_div_iff₀ (length_pos_cast hne), mul_comm, ← nsmul_eq_mul]
  exact List.card_nsmul_le_sum xs lo h

theorem mean_le {hi : K} (hne : xs ≠ []) (h : ∀ x ∈ xs, x ≤ hi) : mean xs ≤ hi := by
  rw [mean, div_le_iff₀ (length_pos_cast hne), mul_comm, ← nsmul_eq_mul]
  exact List.sum_le_card_nsmul xs hi h

theorem length_mul_variance (hne : xs ≠ []) :
    xs.length * variance xs = (xs.map (· ^ 2)).sum - xs.length * mean xs ^ 2 := by
  rw [variance, mul_div_cancel₀ _ (length_pos_cast hne).ne', sum_sq_sub]
  linear_combination 2 * mean xs * length_mul_mean hne

theorem sq_sub_nonneg (m : K) : ∀ d ∈ xs.map fun x => (x - m) ^ 2, 0 ≤ d := by
  intro d hd
  obtain ⟨x, -, rfl⟩ := List.mem_map.mp hd
  exact sq_nonneg _

theorem variance_nonneg (xs : List K) : 0 ≤ variance xs :=
  div_nonneg (List.sum_nonneg (sq_sub_nonneg _)) (Nat.cast_nonneg _)

/-- Nothing varies only if all values are the mean. -/
theorem variance_eq_zero_iff (hne : xs ≠ []) :
    variance xs = 0 ↔ ∀ x ∈ xs, ∀ y ∈ xs, x = y := by
  constructor
  · intro hzero
    have hsum : (xs.map fun x => (x - mean xs) ^ 2).sum = 0 :=
      (div_eq_zero_iff.mp hzero).resolve_right (length_pos_cast hne).ne'
    have hmean : ∀ x ∈ xs, x = mean xs := by
      intro x hx
      have hsq := List.all_zero_of_le_zero_le_of_sum_eq_zero (sq_sub_nonneg _) hsum
        (List.mem_map_of_mem hx)
      exact sub_eq_zero.mp (sq_eq_zero_iff.mp hsq)
    intro x hx y hy
    rw [hmean x hx, hmean y hy]
  · intro hall
    have hmean : ∀ x ∈ xs, x = mean xs := fun x hx =>
      le_antisymm (le_mean hne fun y hy => (hall x hx y hy).le)
        (mean_le hne fun y hy => (hall y hy x hx).le)
    have hsq : ∀ d ∈ xs.map fun x => (x - mean xs) ^ 2, d = 0 := by
      intro d hd
      obtain ⟨x, hx, rfl⟩ := List.mem_map.mp hd
      rw [sub_eq_zero.mpr (hmean x hx), sq, mul_zero]
    rw [variance, List.sum_eq_zero hsq, zero_div]

/-- What a mean and a variance say about the values they come from. -/
structure Describes (xs : List K) (mean variance : K) : Prop where
  length_mul_mean : xs.length * mean = xs.sum
  between : ∃ least greatest, xs.min? = some least ∧ xs.max? = some greatest ∧
    least ≤ mean ∧ mean ≤ greatest
  length_mul_variance : xs.length * variance = (xs.map (· ^ 2)).sum - xs.length * mean ^ 2
  variance_nonneg : 0 ≤ variance
  variance_eq_zero_iff : variance = 0 ↔ ∀ x ∈ xs, ∀ y ∈ xs, x = y

theorem describes_mean (hne : xs ≠ []) : Describes xs (mean xs) (variance xs) where
  length_mul_mean := length_mul_mean hne
  between := by
    obtain ⟨least, hleast⟩ := Option.isSome_iff_exists.mp (List.isSome_min?_of_ne_nil hne)
    obtain ⟨greatest, hgreatest⟩ := Option.isSome_iff_exists.mp (List.isSome_max?_of_ne_nil hne)
    exact ⟨least, greatest, hleast, hgreatest, le_mean hne (List.min?_eq_some_iff.mp hleast).2,
      mean_le hne (List.max?_eq_some_iff.mp hgreatest).2⟩
  length_mul_variance := length_mul_variance hne
  variance_nonneg := variance_nonneg xs
  variance_eq_zero_iff := variance_eq_zero_iff hne

end

/-! ## What is reduced -/

section
variable {α : Type} [Quantity α]

theorem toOption_ofValues_eq_none_iff (values : List α) :
    (Stats.ofValues values).toOption = none ↔
      values = [] ∨ ∃ v ∈ values, Quantity.isFinite v = false := by
  have hsome := exists_ofValues_iff values
  simp only [← toOption_eq_some_iff, ← Option.isSome_iff_exists] at hsome
  rw [← Option.not_isSome_iff_eq_none, hsome]
  simp only [ne_eq, not_and_or, not_not, not_forall, Bool.not_eq_true, exists_prop]

/-- The statistics of what samples have of a measure. -/
def reduced (samples : List (Sample α)) (measure : Sample α → Option α) : Option (Stats α) :=
  (Stats.ofValues (samples.filterMap measure)).toOption

/-- No sample has the measure, or a value of it is not finite. -/
def Unmeasured (samples : List (Sample α)) (measure : Sample α → Option α) : Prop :=
  (∀ s ∈ samples, measure s = none) ∨
    ∃ s ∈ samples, ∃ v, measure s = some v ∧ Quantity.isFinite v = false

theorem reduced_eq_none_iff (samples : List (Sample α)) (measure : Sample α → Option α) :
    reduced samples measure = none ↔ Unmeasured samples measure := by
  rw [reduced, toOption_ofValues_eq_none_iff, List.filterMap_eq_nil_iff, Unmeasured]
  refine or_congr_right ?_
  simp only [List.mem_filterMap]
  constructor
  · rintro ⟨v, ⟨s, hs, hv⟩, hinfinite⟩
    exact ⟨s, hs, v, hv, hinfinite⟩
  · rintro ⟨s, hs, v, hv, hinfinite⟩
    exact ⟨v, ⟨s, hs, hv⟩, hinfinite⟩

end

/-- A point is made of the statistics of its two measures. -/
theorem Point.of_ofSamples {α : Type} [Analytic α] {samples : List (Sample α)} {p : Point α}
    (h : Point.ofSamples samples = some p) :
    p.trials = samples.length ∧ p.latency = (reduced samples (·.latency)).map (·.average) ∧
      p.throughput = (reduced samples (·.throughput)).map (·.average) ∧
      p.deviation = (reduced samples (·.throughput)).map (·.standardDeviation) := by
  obtain ⟨first, -, rfl⟩ := Option.map_eq_some_iff.mp h
  exact ⟨rfl, rfl, rfl, rfl⟩

/-! ## The reduction of finite values -/

section
variable {K : Type} [Field K] [LinearOrder K] [FloorRing K]

theorem foldl_add_finite (s : K) (xs : List K) :
    (xs.map Extended.finite).foldl (· + ·) (Extended.finite s) = .finite (s + xs.sum) := by
  induction xs generalizing s with
  | nil => simp
  | cons x rest ih =>
    rw [List.map_cons, List.foldl_cons, Extended.finite_add, ih, List.sum_cons, add_assoc]

theorem total_finite (xs : List K) : total (xs.map Extended.finite) = .finite xs.sum := by
  rw [total, Extended.finite_zero, Extended.neg_finite, foldl_add_finite, neg_zero, zero_add]

theorem map_finite_filterMap {values : List (Extended K)}
    (h : ∀ v ∈ values, Quantity.isFinite v = true) :
    (values.filterMap Extended.value?).map Extended.finite = values := by
  induction values with
  | nil => rfl
  | cons v rest ih =>
    rw [List.forall_mem_cons] at h
    cases v with
    | finite x => rw [List.filterMap_cons_some (f := Extended.value?) rfl, List.map_cons, ih h.2]
    | infinite negative => exact absurd h.1 Bool.false_ne_true
    | undefined => exact absurd h.1 Bool.false_ne_true

/-- What has statistics is made of finite values. -/
theorem filterMap_value?_of_ofValues {values : List (Extended K)}
    (h : (Stats.ofValues values).toOption ≠ none) : values.filterMap Extended.value? ≠ [] ∧
      (values.filterMap Extended.value?).map Extended.finite = values := by
  rw [ne_eq, toOption_ofValues_eq_none_iff, not_or] at h
  obtain ⟨hne, hinfinite⟩ := h
  have hfinite : ∀ v ∈ values, Quantity.isFinite v = true := by simpa using hinfinite
  have hvalues := map_finite_filterMap hfinite
  refine ⟨?_, hvalues⟩
  intro hnil
  rw [hnil] at hvalues
  exact hne hvalues.symm

variable [IsStrictOrderedRing K]

theorem ofValues_finite {xs : List K} (hne : xs ≠ []) :
    Stats.ofValues (xs.map Extended.finite) =
      .ok ⟨xs.length, .finite xs.sum, .finite (mean xs), .finite (variance xs)⟩ := by
  have hcount : ((xs.length : Nat) : Extended K) = .finite xs.length := rfl
  have hmean : (Extended.finite xs.sum : Extended K) / .finite xs.length = .finite (mean xs) :=
    Extended.finite_div _ (length_pos_cast hne).ne'
  have hsquares : (xs.map Extended.finite).map (squaredDifference (.finite (mean xs))) =
      (xs.map fun x => (x - mean xs) ^ 2).map Extended.finite := by
    rw [List.map_map, List.map_map]
    apply List.map_congr_left
    intro x _
    simp [squaredDifference, sq]
  have hfind : (xs.map Extended.finite).find? (fun v => !Quantity.isFinite v) = none := by
    rw [List.find?_eq_none]
    intro v hv
    obtain ⟨x, -, rfl⟩ := List.mem_map.mp hv
    exact Bool.false_ne_true
  have hempty : (xs.map Extended.finite).isEmpty = false := by
    rw [List.isEmpty_map, List.isEmpty_eq_false_iff]
    exact hne
  simp only [Stats.ofValues, hempty, hfind, List.length_map, total_finite, hcount, hmean, hsquares,
    Bool.false_eq_true, if_false, Except.ok.injEq, Stats.mk.injEq, true_and]
  exact Extended.finite_div _ (length_pos_cast hne).ne'

/-- Which values there are decides what they are reduced to, and not their order. -/
theorem toOption_ofValues_perm {values others : List (Extended K)} (h : others.Perm values) :
    (Stats.ofValues others).toOption = (Stats.ofValues values).toOption := by
  have hmissing : (Stats.ofValues others).toOption = none ↔
      (Stats.ofValues values).toOption = none := by
    simp only [toOption_ofValues_eq_none_iff, h.mem_iff, ← List.length_eq_zero_iff, h.length_eq]
  by_cases hnone : (Stats.ofValues values).toOption = none
  · rw [hnone, hmissing.mpr hnone]
  · obtain ⟨hxs, hvalues⟩ := filterMap_value?_of_ofValues hnone
    obtain ⟨hys, hothers⟩ := filterMap_value?_of_ofValues (hmissing.not.mpr hnone)
    have hperm := h.filterMap Extended.value?
    rw [← hvalues, ← hothers, ofValues_finite hxs, ofValues_finite hys, hperm.length_eq,
      hperm.sum_eq, mean_perm hperm, variance_perm hperm]

theorem reduced_perm {samples others : List (Sample (Extended K))} (h : others.Perm samples)
    (measure : Sample (Extended K) → Option (Extended K)) :
    reduced others measure = reduced samples measure :=
  toOption_ofValues_perm (h.filterMap measure)

theorem reduced_finite {samples : List (Sample (Extended K))}
    {measure : Sample (Extended K) → Option (Extended K)} {xs : List K} (hne : xs ≠ [])
    (h : samples.filterMap measure = xs.map .finite) :
    reduced samples measure =
      some ⟨xs.length, .finite xs.sum, .finite (mean xs), .finite (variance xs)⟩ := by
  rw [reduced, h, ofValues_finite hne]
  rfl

end

/-! ## Points -/

/-- What a point says of the samples that it is made of. -/
structure Summarizes {α : Type} [Analytic α] (samples : List (Sample α)) (p : Point α) : Prop where
  trials : p.trials = samples.length
  no_latency : p.latency = none ↔ Unmeasured samples (·.latency)
  no_throughput : p.throughput = none ↔ Unmeasured samples (·.throughput)
  no_deviation : p.deviation = none ↔ p.throughput = none
  of_latencies : ∀ others q, Point.ofSamples others = some q →
    others.filterMap (·.latency) = samples.filterMap (·.latency) → q.latency = p.latency
  of_throughputs : ∀ others q, Point.ofSamples others = some q →
    others.filterMap (·.throughput) = samples.filterMap (·.throughput) →
      q.throughput = p.throughput ∧ q.deviation = p.deviation

theorem summarizes_of_ofSamples {α : Type} [Analytic α] {samples : List (Sample α)} {p : Point α}
    (h : Point.ofSamples samples = some p) : Summarizes samples p := by
  obtain ⟨htrials, hlatency, hthroughput, hdeviation⟩ := Point.of_ofSamples h
  refine ⟨htrials, ?_, ?_, ?_, ?_, ?_⟩
  · rw [hlatency, Option.map_eq_none_iff, reduced_eq_none_iff]
  · rw [hthroughput, Option.map_eq_none_iff, reduced_eq_none_iff]
  · rw [hthroughput, hdeviation, Option.map_eq_none_iff, Option.map_eq_none_iff]
  · intro others q hq hsame
    obtain ⟨-, hlatency', -, -⟩ := Point.of_ofSamples hq
    rw [hlatency, hlatency', reduced, reduced, hsame]
  · intro others q hq hsame
    obtain ⟨-, -, hthroughput', hdeviation'⟩ := Point.of_ofSamples hq
    rw [hthroughput, hdeviation, hthroughput', hdeviation', reduced, reduced, hsame]
    exact ⟨rfl, rfl⟩

section
variable {K : Type} [Field K] [LinearOrder K] [FloorRing K] [Elementary K]

/-- What a point says of samples whose finite values are not rounded. -/
structure SummarizesExactly (samples : List (Sample (Extended K))) (p : Point (Extended K)) :
    Prop where
  latency : ∀ xs : List K, xs ≠ [] → samples.filterMap (·.latency) = xs.map .finite →
    ∃ m v, reduced samples (·.latency) = some ⟨xs.length, .finite xs.sum, .finite m, .finite v⟩ ∧
      Describes xs m v ∧ p.latency = some (.finite m)
  throughput : ∀ xs : List K, xs ≠ [] → samples.filterMap (·.throughput) = xs.map .finite →
    ∃ m v, reduced samples (·.throughput) = some ⟨xs.length, .finite xs.sum, .finite m, .finite v⟩ ∧
      Describes xs m v ∧ p.throughput = some (.finite m) ∧
      p.deviation = some (.finite (Elementary.sqrt v))
  of_perm : ∀ others q, others.Perm samples → Point.ofSamples others = some q →
    reduced others (·.latency) = reduced samples (·.latency) ∧
      reduced others (·.throughput) = reduced samples (·.throughput) ∧
      q.latency = p.latency ∧ q.throughput = p.throughput ∧ q.deviation = p.deviation

theorem standardDeviation_finite (count : Nat) (sum average : Extended K) {v : K} (h : 0 ≤ v) :
    Stats.standardDeviation ⟨count, sum, average, .finite v⟩ = .finite (Elementary.sqrt v) :=
  if_neg h.not_gt

variable [IsStrictOrderedRing K]

theorem summarizesExactly_of_ofSamples {samples : List (Sample (Extended K))}
    {p : Point (Extended K)} (h : Point.ofSamples samples = some p) :
    SummarizesExactly samples p := by
  obtain ⟨-, hlatency, hthroughput, hdeviation⟩ := Point.of_ofSamples h
  refine ⟨?_, ?_, ?_⟩
  · intro xs hne hxs
    have hreduced := reduced_finite hne hxs
    refine ⟨mean xs, variance xs, hreduced, describes_mean hne, ?_⟩
    rw [hlatency, hreduced, Option.map_some]
  · intro xs hne hxs
    have hreduced := reduced_finite hne hxs
    refine ⟨mean xs, variance xs, hreduced, describes_mean hne, ?_, ?_⟩
    · rw [hthroughput, hreduced, Option.map_some]
    · rw [hdeviation, hreduced, Option.map_some,
        standardDeviation_finite _ _ _ (variance_nonneg xs)]
  · intro others q hperm hq
    obtain ⟨-, hlatency', hthroughput', hdeviation'⟩ := Point.of_ofSamples hq
    have hlatencies := reduced_perm hperm (·.latency)
    have hthroughputs := reduced_perm hperm (·.throughput)
    rw [hlatency, hthroughput, hdeviation, hlatency', hthroughput', hdeviation', hlatencies,
      hthroughputs]
    exact ⟨rfl, rfl, rfl, rfl, rfl⟩

end

/-- Samples make a point if there are any. Its means and its deviation are those of the values that
are there: exactly, where nothing is rounded. -/
theorem samples_summarized [Elementary ℚ] :
    (∀ {α : Type} [Analytic α] (samples : List (Sample α)),
      (Point.ofSamples samples = none ↔ samples = []) ∧
        ∀ p, Point.ofSamples samples = some p → Summarizes samples p) ∧
    ∀ (samples : List (Sample (Extended ℚ))) p, Point.ofSamples samples = some p →
      SummarizesExactly samples p := by
  refine ⟨?_, fun samples p => summarizesExactly_of_ofSamples⟩
  intro α _ samples
  rw [← Option.isNone_iff_eq_none, Point.ofSamples_isNone_iff]
  exact ⟨Iff.rfl, fun p => summarizes_of_ofSamples⟩

/-- Three trials of which each measure has two values; one of the latencies is no number. Neither
the order of the trials nor the trial without a throughput matters to the throughput. -/
theorem samples_summarized_sparse :
    let _ : Elementary ℚ := ⟨fun v => if v = 1000000 then 1000 else v, id, id⟩
    let sample (latency throughput : Option (Extended ℚ)) : Sample (Extended ℚ) :=
      ⟨"sync", "rocksdb", .threads 4, 1, latency, throughput⟩
    let first := sample none (some (.finite 1000))
    let second := sample (some .undefined) none
    let third := sample (some (.finite 10)) (some (.finite 3000))
    ∃ p q r, Point.ofSamples [first, second, third] = some p ∧
      Point.ofSamples [third, second, first] = some q ∧ Point.ofSamples [first, third] = some r ∧
      p.trials = 3 ∧ p.latency = none ∧ q.latency = none ∧ r.latency ≠ none ∧
      p.throughput = some (.finite 2000) ∧ p.deviation = some (.finite 1000) ∧
      q.throughput = p.throughput ∧ r.throughput = p.throughput ∧ r.deviation = p.deviation := by
  intro _ sample first second third
  refine ⟨_, _, _, rfl, rfl, rfl, ?_⟩
  have hp := (samples_summarized.1 [first, second, third]).2 _ rfl
  have hr := (samples_summarized.1 [first, third]).2 _ rfl
  have hexact := samples_summarized.2 [first, second, third] _ rfl
  have hunmeasured : Unmeasured [first, second, third] (·.latency) :=
    .inr ⟨second, by simp, .undefined, rfl, rfl⟩
  have hmeasured : ¬Unmeasured [first, third] (·.latency) := by
    simp [Unmeasured, first, third, sample, Quantity.isFinite, Extended.value?]
  obtain ⟨m, v, -, hdescribes, hthroughput, hdeviation⟩ :=
    hexact.throughput [1000, 3000] (by simp) rfl
  have hm : m = 2000 := by
    have hsum := hdescribes.length_mul_mean
    norm_num at hsum
    linarith
  have hv : v = 1000000 := by
    have hsquares := hdescribes.length_mul_variance
    rw [hm] at hsquares
    norm_num at hsquares
    linarith
  have hperm : [third, second, first].Perm [first, second, third] :=
    List.reverse_perm [first, second, third]
  obtain ⟨-, -, hlatencies, hthroughputs, -⟩ := hexact.of_perm _ _ hperm rfl
  obtain ⟨hsame, hspread⟩ := hp.of_throughputs [first, third] _ rfl rfl
  have hno_latency := hp.no_latency.mpr hunmeasured
  refine ⟨hp.trials, hno_latency, hlatencies.trans hno_latency, hr.no_latency.not.mpr hmeasured,
    hm ▸ hthroughput, ?_, hthroughputs, hsame, hspread⟩
  rw [hdeviation, hv]
  rfl

end BenchCharts.Series

import BenchCharts.Proofs.Results.Loading
import BenchCharts.Series.Sweep

/-!
The books of a sweep. Every configuration that is read has a point if and only if one of its trials
counts, the point says how many of them do, and each trial is entered once in the report. Nothing
is lost between the trials, the samples, the points and the report, and nothing is made up.
-/
namespace BenchCharts.Series

open Files (Tree)
open Results (Configuration Layout Loads Report Sample TrialPhase TrialQuery Workload loadedTrials
  readTrials)
open Style (BackendId)

/-- Values that are some and all finite have statistics. -/
theorem isSome_ofValues {values : List Float} (hne : values ≠ [])
    (hfinite : ∀ v ∈ values, v.isFinite = true) :
    (Stats.ofValues values).toOption.isSome = true := by
  obtain ⟨stats, hstats⟩ := (exists_ofValues_iff values).mpr ⟨hne, hfinite⟩
  simp [hstats, Except.toOption]

namespace Point

/-- A point takes its labels from the first sample and counts all of them. -/
theorem labels_of_ofSamples {samples : List (Sample Float)} {p : Point Float}
    (h : ofSamples samples = some p) :
    ∃ first ∈ samples, p.backend = first.backend ∧ p.configuration = first.configuration ∧
      p.trials = samples.length := by
  cases samples with
  | nil => simp [ofSamples] at h
  | cons first rest =>
    simp only [ofSamples, List.head?_cons, Option.map_some, Option.some.injEq] at h
    subst h
    exact ⟨first, List.mem_cons_self, rfl, rfl, rfl⟩

/-- A measure that every sample has, with a finite value, has statistics. -/
theorem isSome_reduced {samples : List (Sample Float)} (hne : samples ≠ [])
    (measure : Sample Float → Option Float)
    (hmeasure : ∀ s ∈ samples, ∃ v, measure s = some v ∧ v.isFinite = true) :
    (Stats.ofValues (samples.filterMap measure)).toOption.isSome = true := by
  apply isSome_ofValues
  · obtain ⟨first, rest, rfl⟩ := List.exists_cons_of_ne_nil hne
    obtain ⟨v, hv, -⟩ := hmeasure first List.mem_cons_self
    simp [hv]
  · intro v hv
    obtain ⟨s, hs, hsv⟩ := List.mem_filterMap.mp hv
    obtain ⟨w, hw, hfinite⟩ := hmeasure s hs
    rw [hsv, Option.some.injEq] at hw
    exact hw ▸ hfinite

end Point

section
variable {layout : Layout} {t : Tree} {query : TrialQuery} {p : Point Float}

theorem throughput_of_readTrials (h : Point.ofSamples (readTrials layout t query).1 = some p) :
    p.throughput.isSome = true ∧ p.deviation.isSome = true := by
  obtain ⟨first, hfirst, -⟩ := Point.labels_of_ofSamples h
  have hreduced := Point.isSome_reduced (List.ne_nil_of_mem hfirst) (·.throughput) (by
    intro s hs
    obtain ⟨trial, m, hloads, rfl⟩ := Results.mem_samples_readTrials hs
    exact ⟨m.throughput, rfl, hloads.isFinite_throughput⟩)
  obtain ⟨head, hhead, rfl⟩ := Option.map_eq_some_iff.mp h
  simpa using hreduced

theorem latency_of_readTrials_load (hphase : query.phase = .load)
    (h : Point.ofSamples (readTrials layout t query).1 = some p) : p.latency.isSome = true := by
  obtain ⟨first, hfirst, -⟩ := Point.labels_of_ofSamples h
  have hreduced := Point.isSome_reduced (List.ne_nil_of_mem hfirst) (·.latency) (by
    intro s hs
    obtain ⟨trial, m, hloads, rfl⟩ := Results.mem_samples_readTrials hs
    exact hloads.latency_of_load hphase)
  obtain ⟨head, hhead, rfl⟩ := Option.map_eq_some_iff.mp h
  simpa using hreduced

theorem latency_of_readTrials_run (hphase : query.phase = .run)
    (h : Point.ofSamples (readTrials layout t query).1 = some p) : p.latency = none := by
  have hnone : (readTrials layout t query).1.filterMap (·.latency) = [] := by
    rw [List.filterMap_eq_nil_iff]
    intro s hs
    obtain ⟨trial, m, hloads, rfl⟩ := Results.mem_samples_readTrials hs
    exact hloads.latency_of_run hphase
  obtain ⟨head, hhead, rfl⟩ := Option.map_eq_some_iff.mp h
  simp [hnone, Stats.ofValues, Except.toOption]

end

/-- What a point is about: backend, configuration and number of trials. -/
def Point.entry (p : Point Float) : BackendId × Configuration × Nat :=
  (p.backend, p.configuration, p.trials)

/-- A query has a point if one of its trials counts, and the point counts them. -/
theorem entry_readTrials (layout : Layout) (t : Tree) (query : TrialQuery) :
    (Point.ofSamples (readTrials layout t query).1).map Point.entry =
      if loadedTrials layout t query = [] then none
      else some (query.backend, query.configuration, (loadedTrials layout t query).length) := by
  have hlength := Results.length_samples_readTrials layout t query
  cases hpoint : Point.ofSamples (readTrials layout t query).1 with
  | none =>
    have hnil : (readTrials layout t query).1 = [] :=
      (Point.ofSamples_isNone_iff _).mp (by simp [hpoint])
    have hloaded : loadedTrials layout t query = [] := by
      rw [← List.length_eq_zero_iff, ← hlength, hnil, List.length_nil]
    simp [hloaded]
  | some p =>
    obtain ⟨first, hfirst, hbackend, hconfiguration, htrials⟩ := Point.labels_of_ofSamples hpoint
    obtain ⟨trial, m, -, rfl⟩ := Results.mem_samples_readTrials hfirst
    have hloaded : loadedTrials layout t query ≠ [] := by
      rw [← List.length_pos_iff, ← hlength]
      exact List.length_pos_of_mem hfirst
    rw [if_neg hloaded, ← hlength, ← htrials]
    simp [Point.entry, hbackend, hconfiguration, TrialQuery.sample]

/-- The books of a series over configurations, given the trials that count for each of them. -/
structure PointSeries.Accounts (s : PointSeries) (backend : BackendId)
    (configurations : List Configuration) (trials : Nat)
    (loaded : Configuration → List Nat) : Prop where
  backend_eq : s.backend = backend
  /-- One point for each configuration with trials that count, in order and with repetitions. -/
  points_eq : s.points.map Point.entry =
    (configurations.filter fun c => loaded c ≠ []).map fun c => (backend, c, (loaded c).length)
  trials_eq : (s.points.map (·.trials)).sum = s.report.loaded
  /-- Every trial of every configuration is reported once. -/
  total_eq : s.report.loaded + s.report.absent + s.report.malformed = trials * configurations.length
  throughput_isSome : ∀ p ∈ s.points, p.throughput.isSome = true ∧ p.deviation.isSome = true

section
variable (layout : Layout) (t : Tree) (database : String) (phase : TrialPhase)
  (backend : BackendId) (configurations : List Configuration) (trials : Nat)

theorem points_ofTree :
    (PointSeries.ofTree layout t database phase backend configurations trials).points.map
      Point.entry =
      (configurations.filter fun configuration =>
        loadedTrials layout t { database, phase, backend, configuration, trials } ≠ []).map
        fun configuration => (backend, configuration,
          (loadedTrials layout t { database, phase, backend, configuration, trials }).length) := by
  simp only [PointSeries.ofTree]
  induction configurations with
  | nil => rfl
  | cons configuration rest ih =>
    have hentry := entry_readTrials layout t { database, phase, backend, configuration, trials }
    rw [List.map_cons, List.filterMap_cons, List.filter_cons]
    cases hpoint : Point.ofSamples (readTrials layout t
        { database, phase, backend, configuration, trials }).1 with
    | none =>
      rw [hpoint] at hentry
      split at hentry
      · next hloaded => simpa [hloaded] using ih
      · simp at hentry
    | some p =>
      rw [hpoint] at hentry
      split at hentry
      · simp at hentry
      · next hloaded =>
        simp only [Option.map_some, Option.some.injEq] at hentry
        simpa [hloaded, hentry] using ih

theorem trials_ofTree :
    ((PointSeries.ofTree layout t database phase backend configurations trials).points.map
      (·.trials)).sum =
      (PointSeries.ofTree layout t database phase backend configurations trials).report.loaded := by
  simp only [PointSeries.ofTree]
  rw [Report.loaded_total]
  induction configurations with
  | nil => rfl
  | cons configuration rest ih =>
    have hloaded :=
      Results.loaded_readTrials layout t { database, phase, backend, configuration, trials }
    simp only [List.map_cons, List.sum_cons, List.filterMap_cons, hloaded]
    cases hpoint : Point.ofSamples (readTrials layout t
        { database, phase, backend, configuration, trials }).1 with
    | none =>
      have hnil := (Point.ofSamples_isNone_iff _).mp (Option.isNone_iff_eq_none.mpr hpoint)
      simpa [hnil] using ih
    | some p =>
      obtain ⟨first, -, -, -, hlength⟩ := Point.labels_of_ofSamples hpoint
      simpa [hlength] using ih

theorem total_ofTree :
    (PointSeries.ofTree layout t database phase backend configurations trials).report.loaded +
      (PointSeries.ofTree layout t database phase backend configurations trials).report.skipped =
      trials * configurations.length := by
  simp only [PointSeries.ofTree]
  rw [Report.loaded_total, Report.skipped_total]
  induction configurations with
  | nil => rfl
  | cons configuration rest ih =>
    have hquery := Results.loaded_add_skipped_readTrials layout t
      { database, phase, backend, configuration, trials }
    simp only [List.map_cons, List.sum_cons, List.length_cons, Nat.mul_succ] at ih hquery ⊢
    omega

variable {layout t database phase backend configurations trials}

/-- Every point of a series comes from the trials of one configuration. -/
theorem mem_points_ofTree {p : Point Float}
    (h : p ∈ (PointSeries.ofTree layout t database phase backend configurations trials).points) :
    ∃ configuration, Point.ofSamples (readTrials layout t
      { database, phase, backend, configuration, trials }).1 = some p := by
  obtain ⟨read, hread, hpoint⟩ := List.mem_filterMap.mp h
  obtain ⟨configuration, -, rfl⟩ := List.mem_map.mp hread
  exact ⟨configuration, hpoint⟩

theorem accounts_ofTree :
    (PointSeries.ofTree layout t database phase backend configurations trials).Accounts backend
      configurations trials fun configuration =>
        loadedTrials layout t { database, phase, backend, configuration, trials } where
  backend_eq := rfl
  points_eq := points_ofTree layout t database phase backend configurations trials
  trials_eq := trials_ofTree layout t database phase backend configurations trials
  total_eq := by
    rw [Nat.add_assoc]
    exact total_ofTree layout t database phase backend configurations trials
  throughput_isSome := by
    intro p hp
    obtain ⟨configuration, hpoint⟩ := mem_points_ofTree hp
    exact throughput_of_readTrials hpoint

end

theorem selectThreads_eq_filter (range : Option ThreadRange) (threads : List Nat) :
    selectThreads range threads =
      threads.filter fun n => ∀ r ∈ range, r.min ≤ n ∧ n ≤ r.max := by
  cases range with
  | none => exact (List.filter_eq_self.mpr (by simp)).symm
  | some r =>
    simp only [selectThreads, ThreadRange.select]
    congr 1
    funext n
    simp [ThreadRange.contains]

/-- The books of both sweeps are right. Loading is swept over the thread counts within the range,
and its points have a latency; running is swept over all workloads, and its points have none. -/
theorem sweeps_account (layout : Layout) (t : Tree) (database : String) (backend : BackendId)
    (trials : Nat) :
    (∀ (threads : List Nat) (range : Option ThreadRange),
      (threadSweep layout t database backend threads range trials).Accounts backend
        ((threads.filter fun n => ∀ r ∈ range, r.min ≤ n ∧ n ≤ r.max).map .threads) trials
        (fun configuration =>
          loadedTrials layout t { database, phase := .load, backend, configuration, trials }) ∧
      ∀ p ∈ (threadSweep layout t database backend threads range trials).points,
        p.latency.isSome = true) ∧
    ∀ workloads : List Workload,
      (workloadSweep layout t database backend workloads trials).Accounts backend
        (workloads.map .workload) trials
        (fun configuration =>
          loadedTrials layout t { database, phase := .run, backend, configuration, trials }) ∧
      ∀ p ∈ (workloadSweep layout t database backend workloads trials).points,
        p.latency = none := by
  constructor
  · intro threads range
    rw [← selectThreads_eq_filter]
    refine ⟨accounts_ofTree, ?_⟩
    intro p hp
    obtain ⟨configuration, hpoint⟩ := mem_points_ofTree hp
    exact latency_of_readTrials_load rfl hpoint
  · intro workloads
    refine ⟨accounts_ofTree, ?_⟩
    intro p hp
    obtain ⟨configuration, hpoint⟩ := mem_points_ofTree hp
    exact latency_of_readTrials_run rfl hpoint

end BenchCharts.Series

import BenchCharts.Proofs.Series.Accounting
import Mathlib.Data.List.Basic

/-!
Trials that cannot be used are as good as absent. Two trees are compared at the trials of a sweep
only: where both hold the same record, or neither holds any, the points cannot differ, and the
reports differ at most in the reasons given for what was skipped. In particular nothing else in a
tree has any influence on a sweep.
-/
namespace BenchCharts.Series

open Files (Path Tree)
open Results (Configuration Layout Loads Measurement Report TrialPhase TrialQuery Workload
  measurement? readTrials)
open Style (BackendId)

/-- Each trial of the configurations holds the same record in both trees, or no record in both. -/
def SameRecords (layout : Layout) (t u : Tree) (database : String) (phase : TrialPhase)
    (backend : BackendId) (configurations : List Configuration) (trials : Nat) : Prop :=
  ∀ configuration ∈ configurations, ∀ trial, 1 ≤ trial → trial ≤ trials → ∀ m : Measurement,
    Loads layout t { database, phase, backend, configuration, trials } trial m ↔
      Loads layout u { database, phase, backend, configuration, trials } trial m

/-- The files of the trials are read alike in both trees. -/
def SameFiles (layout : Layout) (t u : Tree) (database : String) (phase : TrialPhase)
    (backend : BackendId) (configurations : List Configuration) (trials : Nat) : Prop :=
  ∀ configuration ∈ configurations, ∀ trial, 1 ≤ trial → trial ≤ trials → ∀ path : Path,
    layout.trialPath database phase backend.text configuration trial = .ok path →
      t.read path = u.read path

/-- The same points, from as many trials, of which as many were skipped. -/
structure PointSeries.Agrees (s r : PointSeries) : Prop where
  points_eq : s.points = r.points
  loaded_eq : s.report.loaded = r.report.loaded
  skipped_eq : s.report.absent + s.report.malformed = r.report.absent + r.report.malformed

theorem measurement?_eq_iff (layout : Layout) (t u : Tree) (query : TrialQuery) (trial : Nat) :
    measurement? layout t query trial = measurement? layout u query trial ↔
      ∀ m, Loads layout t query trial m ↔ Loads layout u query trial m := by
  constructor
  · intro h m
    rw [← Results.measurement?_eq_some_iff, ← Results.measurement?_eq_some_iff, h]
  · intro h
    apply Option.ext
    intro m
    rw [Results.measurement?_eq_some_iff, Results.measurement?_eq_some_iff]
    exact h m

theorem forall_trial_iff (trials : Nat) (p : Nat → Prop) :
    (∀ trial, 1 ≤ trial → trial ≤ trials → p trial) ↔ ∀ trial ∈ List.range' 1 trials, p trial := by
  apply forall_congr'
  intro trial
  rw [List.mem_range'_1]
  constructor
  · intro h hrange
    exact h hrange.1 (by omega)
  · intro h hlow hhigh
    exact h ⟨hlow, by omega⟩

section
variable {layout : Layout} {t u : Tree} {database : String} {phase : TrialPhase}
  {backend : BackendId} {configurations : List Configuration} {trials : Nat}

theorem sameRecords_iff :
    SameRecords layout t u database phase backend configurations trials ↔
      ∀ configuration ∈ configurations, ∀ trial ∈ List.range' 1 trials,
        measurement? layout t { database, phase, backend, configuration, trials } trial =
          measurement? layout u { database, phase, backend, configuration, trials } trial := by
  unfold SameRecords
  apply forall₂_congr
  intro configuration _
  rw [forall_trial_iff]
  simp only [measurement?_eq_iff]

instance : Decidable (SameRecords layout t u database phase backend configurations trials) :=
  decidable_of_iff _ sameRecords_iff.symm

/-- Records are the same where the same texts can be read. -/
theorem sameRecords_of_read_iff
    (h : ∀ configuration ∈ configurations, ∀ trial, 1 ≤ trial → trial ≤ trials → ∀ path : Path,
      layout.trialPath database phase backend.text configuration trial = .ok path →
        ∀ text, t.read path = .ok text ↔ u.read path = .ok text) :
    SameRecords layout t u database phase backend configurations trials := by
  intro configuration hconfiguration trial hlow hhigh m
  apply exists_congr
  intro path
  apply exists_congr
  intro text
  apply and_congr_right
  intro hpath
  rw [h configuration hconfiguration trial hlow hhigh path hpath text]

theorem sameFiles_iff :
    SameFiles layout t u database phase backend configurations trials ↔
      ∀ configuration ∈ configurations, ∀ trial ∈ List.range' 1 trials,
        ∀ path ∈ (layout.trialPath database phase backend.text configuration trial).toOption,
          t.read path = u.read path := by
  unfold SameFiles
  apply forall₂_congr
  intro configuration _
  rw [forall_trial_iff]
  apply forall₂_congr
  intro trial _
  cases layout.trialPath database phase backend.text configuration trial with
  | error e => simp [Except.toOption]
  | ok path => simp [Except.toOption]

instance : Decidable (SameFiles layout t u database phase backend configurations trials) :=
  decidable_of_iff _ sameFiles_iff.symm

/-- Samples depend on the records of the trials alone. -/
theorem samples_eq_of_measurement? (query : TrialQuery)
    (h : ∀ trial ∈ List.range' 1 query.trials,
      measurement? layout t query trial = measurement? layout u query trial) :
    (readTrials layout t query).1 = (readTrials layout u query).1 := by
  rw [Results.samples_readTrials, Results.samples_readTrials]
  apply List.filterMap_congr
  intro trial htrial
  rw [h trial htrial]

theorem points_ofTree_eq (h : SameRecords layout t u database phase backend configurations trials) :
    (PointSeries.ofTree layout t database phase backend configurations trials).points =
      (PointSeries.ofTree layout u database phase backend configurations trials).points := by
  simp only [PointSeries.ofTree, List.filterMap_map]
  apply List.filterMap_congr
  intro configuration hconfiguration
  have hsamples := samples_eq_of_measurement?
    { database, phase, backend, configuration, trials }
    (sameRecords_iff.mp h configuration hconfiguration)
  simp only [Function.comp_apply, hsamples]

theorem agrees_ofTree (h : SameRecords layout t u database phase backend configurations trials) :
    (PointSeries.ofTree layout t database phase backend configurations trials).Agrees
      (PointSeries.ofTree layout u database phase backend configurations trials) := by
  have hpoints := points_ofTree_eq h
  have hloaded := trials_ofTree layout t database phase backend configurations trials
  rw [hpoints, trials_ofTree layout u] at hloaded
  have ht := total_ofTree layout t database phase backend configurations trials
  have hu := total_ofTree layout u database phase backend configurations trials
  simp only [Report.skipped] at ht hu
  exact ⟨hpoints, hloaded.symm, by omega⟩

theorem ofTree_eq_of_sameFiles
    (h : SameFiles layout t u database phase backend configurations trials) :
    PointSeries.ofTree layout t database phase backend configurations trials =
      PointSeries.ofTree layout u database phase backend configurations trials := by
  have hread : ∀ configuration ∈ configurations,
      readTrials layout t { database, phase, backend, configuration, trials } =
        readTrials layout u { database, phase, backend, configuration, trials } := by
    intro configuration hconfiguration
    have houtcomes : Results.trialOutcomes layout t
        { database, phase, backend, configuration, trials } =
        Results.trialOutcomes layout u { database, phase, backend, configuration, trials } := by
      unfold Results.trialOutcomes
      apply List.map_congr_left
      intro n hn
      have hle : n + 1 ≤ trials := List.mem_range.mp hn
      have hpath := h configuration hconfiguration (n + 1) (by omega) hle
      unfold Results.trialOutcome Results.Outcome.ofFile
      dsimp only
      cases hlayout : layout.trialPath database phase backend.text configuration (n + 1) with
      | error cause => rfl
      | ok path => simp only [hpath path hlayout]
    unfold readTrials
    rw [houtcomes]
  unfold PointSeries.ofTree
  rw [List.map_congr_left hread]

end

/-- Only the records of the trials in a sweep matter to its points. -/
theorem sweeps_agree (layout : Layout) (t u : Tree) (database : String) (backend : BackendId)
    (trials : Nat) :
    (∀ (threads : List Nat) (range : Option ThreadRange),
      let selected := (threads.filter fun n => ∀ r ∈ range, r.min ≤ n ∧ n ≤ r.max).map
        Configuration.threads
      (SameRecords layout t u database .load backend selected trials →
        (threadSweep layout t database backend threads range trials).Agrees
          (threadSweep layout u database backend threads range trials)) ∧
      (SameFiles layout t u database .load backend selected trials →
        threadSweep layout t database backend threads range trials =
          threadSweep layout u database backend threads range trials)) ∧
    ∀ workloads : List Workload,
      (SameRecords layout t u database .run backend (workloads.map .workload) trials →
        (workloadSweep layout t database backend workloads trials).Agrees
          (workloadSweep layout u database backend workloads trials)) ∧
      (SameFiles layout t u database .run backend (workloads.map .workload) trials →
        workloadSweep layout t database backend workloads trials =
          workloadSweep layout u database backend workloads trials) := by
  constructor
  · intro threads range
    rw [← selectThreads_eq_filter]
    exact ⟨agrees_ofTree, ofTree_eq_of_sameFiles⟩
  · intro workloads
    exact ⟨agrees_ofTree, ofTree_eq_of_sameFiles⟩

/-- A tree with the load trials of one backend, given by their numbers of threads, their numbers
and what is in their files. -/
def loadTree (files : List (Nat × Nat × Files.Content)) : Tree :=
  files.foldl (fun t (threads, trial, content) =>
    t.plant ["results", "rocksdb", "load", "sync", "rocksdb_load_sync_th" ++ toString threads ++
      "_trail" ++ toString trial ++ ".yml"] (.file content)) .empty

/-- Of three trials the second is absent in one tree and no text in the other, and the third has no
finite throughput in one and no latency in the other. A fourth trial and one with too many threads
are there in the second tree only; without them even the reports are the same. -/
theorem sweeps_agree_loadTree :
    let t := loadTree [(2, 1, .text "throughput: 1000\nINSERT:\n  avg: 50\n"),
      (2, 3, .text "throughput: .nan\nINSERT:\n  avg: 50\n")]
    let inRange : List (Nat × Nat × Files.Content) :=
      [(2, 1, .text "INSERT: {max: 900, avg: 5e1}\nthroughput: 1e3 # again\n"),
        (2, 2, .binary 7), (2, 3, .text "throughput: 7\n")]
    let u := loadTree (inRange ++ [(2, 4, .text "throughput: 1\nINSERT:\n  avg: 1\n"),
      (48, 1, .text "throughput: 1\nINSERT:\n  avg: 1\n")])
    let range : Option ThreadRange := some ⟨1, 16, by decide⟩
    SameRecords ⟨⟨"results"⟩⟩ t u "rocksdb" .load "sync" [.threads 2] 3 ∧
      (threadSweep ⟨⟨"results"⟩⟩ t "rocksdb" "sync" [2, 48] range 3).Agrees
        (threadSweep ⟨⟨"results"⟩⟩ u "rocksdb" "sync" [2, 48] range 3) ∧
      SameFiles ⟨⟨"results"⟩⟩ u (loadTree inRange) "rocksdb" .load "sync" [.threads 2] 3 ∧
      threadSweep ⟨⟨"results"⟩⟩ u "rocksdb" "sync" [2, 48] range 3 =
        threadSweep ⟨⟨"results"⟩⟩ (loadTree inRange) "rocksdb" "sync" [2, 48] range 3 := by
  intro t inRange u range
  have hrecords : SameRecords ⟨⟨"results"⟩⟩ t u "rocksdb" .load "sync" [.threads 2] 3 := by
    decide +kernel
  have hfiles : SameFiles ⟨⟨"results"⟩⟩ u (loadTree inRange) "rocksdb" .load "sync"
      [.threads 2] 3 := by
    decide +kernel
  exact ⟨hrecords, ((sweeps_agree _ t u _ _ 3).1 [2, 48] range).1 hrecords,
    hfiles, ((sweeps_agree _ u (loadTree inRange) _ _ 3).1 [2, 48] range).2 hfiles⟩

end BenchCharts.Series

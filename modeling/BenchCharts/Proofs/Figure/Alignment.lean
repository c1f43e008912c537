import BenchCharts.Proofs.Figure.Records
import BenchCharts.Proofs.Figure.Styles

/-!
Gaps in the results and the places of what is there. Points exist only where trials were read, and
they are found again by what they were run with; recoveries are found by backend and database. So
a bar stands over its own workload and a trace over its own database, however many others are
missing and however often a name is repeated.
-/
namespace BenchCharts.Series

open Files (Tree)
open Results (Configuration Layout Loads TrialPhase TrialQuery measurement? readTrials)
open Style (BackendId)

/-- The throughputs in the records of a query, in the order of the trials. -/
def throughputs (layout : Layout) (t : Tree) (query : TrialQuery) : List Float :=
  (List.range' 1 query.trials).filterMap fun trial =>
    (measurement? layout t query trial).map (·.throughput)

theorem throughputs_ne_nil_iff (layout : Layout) (t : Tree) (query : TrialQuery) :
    throughputs layout t query ≠ [] ↔
      ∃ trial, 1 ≤ trial ∧ trial ≤ query.trials ∧ ∃ m, Loads layout t query trial m := by
  have hnil : throughputs layout t query = [] ↔
      ∀ trial, 1 ≤ trial → trial ≤ query.trials → ¬ ∃ m, Loads layout t query trial m := by
    rw [forall_trial_iff, throughputs, List.filterMap_eq_nil_iff]
    simp only [Option.map_eq_none_iff, ← Results.isSome_measurement?_iff, Bool.not_eq_true,
      Option.isSome_eq_false_iff, Option.isNone_iff_eq_none]
  rw [ne_eq, hnil]
  simp only [not_forall, not_not, exists_prop]

/-- Every record has a finite throughput, so some records have statistics. -/
theorem isSome_ofValues_throughputs_iff (layout : Layout) (t : Tree) (query : TrialQuery) :
    (Stats.ofValues (throughputs layout t query)).toOption.isSome = true ↔
      ∃ trial, 1 ≤ trial ∧ trial ≤ query.trials ∧ ∃ m, Loads layout t query trial m := by
  rw [← throughputs_ne_nil_iff]
  constructor
  · intro h hnil
    simp [hnil, Stats.ofValues, Except.toOption] at h
  · intro hne
    apply isSome_ofValues hne
    intro v hv
    obtain ⟨trial, -, hvalue⟩ := List.mem_filterMap.mp hv
    obtain ⟨m, hm, rfl⟩ := Option.map_eq_some_iff.mp hvalue
    exact (Results.measurement?_eq_some_iff.mp hm).isFinite_throughput

theorem filterMap_throughput_readTrials (layout : Layout) (t : Tree) (query : TrialQuery) :
    (readTrials layout t query).1.filterMap (·.throughput) = throughputs layout t query := by
  rw [Results.samples_readTrials, List.filterMap_filterMap]
  apply List.filterMap_congr
  intro trial _
  cases measurement? layout t query trial <;> rfl

/-- The point of a configuration is found by it, if there is one. -/
theorem find?_points_ofTree {layout : Layout} {t : Tree} {database : String} {phase : TrialPhase}
    {backend : BackendId} {configurations : List Configuration} {trials : Nat}
    {configuration : Configuration} (hmem : configuration ∈ configurations) :
    (PointSeries.ofTree layout t database phase backend configurations trials).points.find?
        (fun p => p.configuration = configuration) =
      Point.ofSamples
        (readTrials layout t { database, phase, backend, configuration, trials }).1 := by
  have hlabel : ∀ c p, Point.ofSamples
      (readTrials layout t { database, phase, backend, configuration := c, trials }).1 = some p →
      p.configuration = c := by
    intro c p hp
    obtain ⟨first, hfirst, -, hconfiguration, -⟩ := Point.labels_of_ofSamples hp
    obtain ⟨trial, m, -, rfl⟩ := Results.mem_samples_readTrials hfirst
    exact hconfiguration
  apply find?_eq_of_unique
  · intro p hp hfound
    obtain ⟨c, hc⟩ := mem_points_ofTree hp
    rw [← of_decide_eq_true hfound, hlabel c p hc]
    exact hc
  · intro p hp
    refine ⟨?_, decide_eq_true (hlabel _ p hp)⟩
    exact List.mem_filterMap.mpr ⟨_, List.mem_map_of_mem hmem, hp⟩

theorem recoveryTrace_eq_some_iff {layout : Layout} {t : Tree} {database : String}
    {backend : BackendId} {trace : RecoveryTrace Float} :
    recoveryTrace layout t database backend = some trace ↔ ∃ text deltas,
      t.read (layout.recoveryPath database backend.text) = .ok text ∧
      Results.PhaseDeltas.parse text = .ok deltas ∧ trace = .ofDeltas deltas := by
  unfold recoveryTrace Results.readPhaseDeltas
  simp only [Option.map_eq_some_iff, Results.Outcome.value?_ofFile_eq_some_iff]
  constructor
  · rintro ⟨deltas, ⟨text, hread, hparse⟩, htrace⟩
    exact ⟨text, deltas, hread, hparse, htrace.symm⟩
  · rintro ⟨text, deltas, hread, hparse, htrace⟩
    exact ⟨deltas, ⟨text, hread, hparse⟩, htrace.symm⟩

end BenchCharts.Series

namespace BenchCharts.Figure

open Chart (Bar BarSeries Grouped StackedGroup)
open Files (Tree)
open Results (Loads PhaseDeltas TrialQuery Workload)
open Series (RecoveryTrace Stats throughputs)
open Style (BackendId)

/-- The bar of some throughputs: their mean and their standard deviation, both by 1000. -/
def barOf (values : List Float) : Bar Float :=
  let sum (xs : List Float) : Float := xs.foldl (· + ·) (-0)
  let count := wordToFloat values.length
  let mean := sum values / count
  let variance := sum (values.map fun v => (v - mean) * (v - mean)) / count
  ⟨mean / 1000, some (variance.sqrt / 1000)⟩

theorem barOf_of_ofValues {values : List Float} {stats : Stats Float}
    (h : Stats.ofValues values = .ok stats) : barOf values =
      ⟨Series.thousands stats.average, some (Series.thousands stats.standardDeviation)⟩ := by
  unfold Stats.ofValues at h
  split at h
  · contradiction
  · split at h
    · contradiction
    · obtain rfl := Except.ok.inj h
      rfl

/-- The bar of a workload is found among the points of its backend. -/
theorem workloadBar_workloadSweep (layout : Results.Layout) (t : Tree) (database : String)
    (backend : BackendId) {workloads : List Workload} (trials : Nat) {w : Workload}
    (hw : w ∈ workloads) :
    workloadBar (Series.workloadSweep layout t database backend workloads trials).points w =
      (Stats.ofValues (throughputs layout t
        ⟨database, .run, backend, .workload w, trials⟩)).toOption.map fun _ =>
          barOf (throughputs layout t ⟨database, .run, backend, .workload w, trials⟩) := by
  unfold workloadBar Series.workloadSweep
  rw [Series.find?_points_ofTree (List.mem_map_of_mem hw),
    ← Series.filterMap_throughput_readTrials]
  cases (Results.readTrials layout t ⟨database, .run, backend, .workload w, trials⟩).1 with
  | nil => rfl
  | cons first rest =>
    simp only [Series.Point.ofSamples, List.head?_cons, Option.map_some, Option.bind_eq_bind,
      Option.bind_some, Series.Point.throughputThousands?, Series.Point.deviationThousands?]
    cases hstats : Stats.ofValues ((first :: rest).filterMap (·.throughput)) with
    | error e => rfl
    | ok stats =>
      rw [barOf_of_ofValues hstats]
      rfl

namespace Study

variable {s : Study} {t : Tree}

/-- The trials of a backend with a workload. -/
def runs (s : Study) (database : String) (id : BackendId) (w : Workload) : TrialQuery :=
  ⟨database, .run, id, .workload w, s.config.trials⟩

/-- The bars of a backend: one for each workload of which a trial can be read, in its place. -/
structure ShowsRuns (s : Study) (t : Tree) (database : String) (id : BackendId)
    (series : BarSeries Float) : Prop where
  style_eq : s.registry.lookup id = .ok series.style
  bars : List.Forall₂ (fun w bar =>
    (bar.isSome = true ↔ ∃ trial, 1 ≤ trial ∧ trial ≤ s.config.trials ∧
      ∃ m, Loads s.layout t (s.runs database id w) trial m) ∧
    ∀ b, bar = some b → b = barOf (throughputs s.layout t (s.runs database id w)))
    s.config.ycsb.workloads series.bars

/-- The chart of a database, with a series for each backend and one label at most. -/
structure ShowsDatabase (s : Study) (t : Tree) (d : Config.YcsbDatabase) (a : Artifact)
    (c : Grouped Float) : Prop where
  name_eq : a.name = d.database ++ "_ycsb.svg"
  chart_eq : a.chart = .grouped c
  categories_eq : c.categories = s.config.ycsb.workloads.map (·.text)
  series : List.Forall₂ (fun (id, i) series => s.ShowsRuns t d.database id series ∧
    series.label = if i = d.legendPosition then some series.style.displayName else none)
    s.config.ycsb.backends.zipIdx c.series

/-- The traces of a backend: one for each database with a recovery that has phases, in its place. -/
structure ShowsRecoveries (s : Study) (t : Tree) (id : BackendId) (group : StackedGroup Float) :
    Prop where
  style_eq : s.registry.lookup id = .ok group.style
  traces : List.Forall₂ (fun database trace => ∀ shown : RecoveryTrace Float,
    trace = some shown ↔ ∃ text deltas,
      t.read (s.layout.recoveryPath database id.text) = .ok text ∧
      PhaseDeltas.parse text = .ok deltas ∧ shown = .ofDeltas deltas ∧ shown.toList ≠ [])
    s.config.recovery.databases group.traces

theorem bar_of_workload (s : Study) (t : Tree) (database : String) (id : BackendId)
    {w : Workload} (hw : w ∈ s.config.ycsb.workloads) {bar : Option (Bar Float)}
    (hbar : bar = workloadBar (Series.workloadSweep s.layout t database id
      s.config.ycsb.workloads s.config.trials).points w) :
    (bar.isSome = true ↔ ∃ trial, 1 ≤ trial ∧ trial ≤ s.config.trials ∧
      ∃ m, Loads s.layout t (s.runs database id w) trial m) ∧
    ∀ b, bar = some b → b = barOf (throughputs s.layout t (s.runs database id w)) := by
  rw [workloadBar_workloadSweep s.layout t database id s.config.trials hw] at hbar
  constructor
  · rw [hbar, Option.isSome_map]
    exact Series.isSome_ofValues_throughputs_iff s.layout t (s.runs database id w)
  · intro b hb
    rw [hbar] at hb
    obtain ⟨-, -, hvalue⟩ := Option.map_eq_some_iff.mp hb
    exact hvalue.symm

theorem showsRuns_of_ycsbSeriesBars {database : String} {legendPosition : Nat}
    {series : List (BarSeries Float)}
    (h : s.ycsbSeriesBars (s.ycsbSeries t database) legendPosition = .ok series) :
    List.Forall₂ (fun (id, i) series => s.ShowsRuns t database id series ∧
      series.label = if i = legendPosition then some series.style.displayName else none)
      s.config.ycsb.backends.zipIdx series := by
  unfold ycsbSeriesBars ycsbSeries at h
  dsimp only at h
  rw [List.zipIdx_map] at h
  have hall := forall₂_of_mapM h
  rw [List.forall₂_map_left_iff] at hall
  refine hall.imp ?_
  rintro ⟨id, i⟩ bars hbars
  obtain ⟨style, hstyle, rfl⟩ := (bind_pure_eq_ok_iff _).mp hbars
  refine ⟨⟨hstyle, ?_⟩, rfl⟩
  rw [List.forall₂_map_right_iff]
  apply List.forall₂_same.mpr
  intro w hw
  exact bar_of_workload s t database id hw rfl

theorem showsDatabase_of_ycsbChart {d : Config.YcsbDatabase} {a : Artifact}
    (h : s.ycsbChart (s.ycsbSeries t d.database) d = .ok a) : ∃ c, s.ShowsDatabase t d a c := by
  obtain ⟨series, hseries, rfl⟩ := (bind_pure_eq_ok_iff _).mp h
  exact ⟨_, rfl, rfl, rfl, showsRuns_of_ycsbSeriesBars hseries⟩

theorem showsDatabase_of_artifacts {drawn : List Artifact}
    (h : s.artifacts (s.read t .ycsb) = .ok drawn) :
    List.Forall₂ (fun d a => ∃ c, s.ShowsDatabase t d a c) s.config.ycsb.databases drawn := by
  unfold artifacts read ycsbCharts at h
  dsimp only at h
  rw [← List.map_prod_right_eq_zip] at h
  have hall := forall₂_of_mapM h
  rw [List.forall₂_map_left_iff] at hall
  exact hall.imp fun d a hchart => showsDatabase_of_ycsbChart hchart

/-- The trace of a backend and database is found among those of all backends and databases. -/
theorem traceOf_recoveryEntry {backends : List BackendId} {databases : List String}
    {id : BackendId} (hid : id ∈ backends) {database : String} (hdatabase : database ∈ databases) :
    traceOf (backends.flatMap fun id => databases.map (s.recoveryEntry t id)) id database =
      (Series.recoveryTrace s.layout t database id).filter fun trace => !trace.isEmpty := by
  have hfind : (backends.flatMap fun id => databases.map (s.recoveryEntry t id)).find?
      (fun e => e.backend = id && e.database = database) =
        some (s.recoveryEntry t id database) := by
    apply find?_eq_of_unique
    · intro e he hp
      obtain ⟨id', -, hrest⟩ := List.mem_flatMap.mp he
      obtain ⟨database', -, rfl⟩ := List.mem_map.mp hrest
      rw [Bool.and_eq_true, decide_eq_true_eq, decide_eq_true_eq] at hp
      obtain ⟨rfl, rfl⟩ := hp
      rfl
    · intro e he
      obtain rfl := Option.some.inj he
      exact ⟨List.mem_flatMap.mpr ⟨id, hid, List.mem_map_of_mem hdatabase⟩, by
        simp [recoveryEntry]⟩
  unfold traceOf
  rw [hfind]
  rfl

theorem showsRecoveries_of_artifacts {drawn : List Artifact}
    (h : s.artifacts (s.read t .recovery) = .ok drawn) :
    ∃ a c, drawn = [a] ∧ a.name = "recovery-time.svg" ∧ a.chart = .stacked c ∧
      c.categories = s.config.recovery.databases ∧
      List.Forall₂ (s.ShowsRecoveries t) s.config.recovery.backends c.groups := by
  obtain ⟨a, ha, rfl⟩ := (map_eq_ok_iff _).mp h
  obtain ⟨groups, hgroups, rfl⟩ := (bind_pure_eq_ok_iff _).mp ha
  refine ⟨_, _, rfl, rfl, rfl, rfl, ?_⟩
  have hall := (List.forall₂_and_left _ _).mpr
    ⟨fun id (hid : id ∈ s.config.recovery.backends) => hid, forall₂_of_mapM hgroups⟩
  refine hall.imp ?_
  rintro id group ⟨hid, hgroup⟩
  obtain ⟨style, hstyle, rfl⟩ := (bind_pure_eq_ok_iff _).mp hgroup
  refine ⟨hstyle, ?_⟩
  rw [List.forall₂_map_right_iff]
  apply List.forall₂_same.mpr
  intro database hdatabase shown
  rw [traceOf_recoveryEntry hid hdatabase, Option.filter_eq_some_iff,
    Series.recoveryTrace_eq_some_iff, Bool.not_eq_true', ← Bool.not_eq_true, RecoveryTrace.isEmpty,
    List.isEmpty_iff]
  constructor
  · rintro ⟨⟨text, deltas, hread, hparse, hshown⟩, hphases⟩
    exact ⟨text, deltas, hread, hparse, hshown, hphases⟩
  · rintro ⟨text, deltas, hread, hparse, hshown, hphases⟩
    exact ⟨⟨text, deltas, hread, hparse, hshown⟩, hphases⟩

/-- The charts of runs and of recoveries show what was measured where it belongs. -/
theorem charts_aligned (s : Study) (t : Tree) :
    (s.Styled .ycsb → ∃ drawn, s.artifacts (s.read t .ycsb) = .ok drawn ∧
      s.render t .ycsb = s.writeAll t drawn ∧
      List.Forall₂ (fun d a => ∃ c, s.ShowsDatabase t d a c) s.config.ycsb.databases drawn) ∧
    (s.Styled .recovery → ∃ a c, s.artifacts (s.read t .recovery) = .ok [a] ∧
      s.render t .recovery = s.writeAll t [a] ∧ a.name = "recovery-time.svg" ∧
      a.chart = .stacked c ∧ c.categories = s.config.recovery.databases ∧
      List.Forall₂ (s.ShowsRecoveries t) s.config.recovery.backends c.groups) := by
  constructor
  · intro hstyled
    obtain ⟨drawn, hdrawn, hrender⟩ := render_of_styled hstyled t
    exact ⟨drawn, hdrawn, hrender, showsDatabase_of_artifacts hdrawn⟩
  · intro hstyled
    obtain ⟨drawn, hdrawn, hrender⟩ := render_of_styled hstyled t
    obtain ⟨a, c, rfl, hshown⟩ := showsRecoveries_of_artifacts hdrawn
    exact ⟨a, c, hdrawn, hrender, hshown⟩

/-- One of two workloads was run, on one of two backends, and one recovery of three was measured.
Repeated names have their bars and traces in all their places. -/
theorem charts_aligned_repeated :
    let a : Workload := ⟨'a', by decide⟩
    let b : Workload := ⟨'b', by decide⟩
    let s : Study := ⟨⟨⟨"results"⟩⟩, { Config.Figures.standard with
      ycsb := { Config.Ycsb.standard with
        backends := [⟨"cephfs"⟩, ⟨"sync"⟩, ⟨"cephfs"⟩], workloads := [b, a, b] }
      recovery := { Config.Recovery.standard with
        backends := [⟨"ncl"⟩, ⟨"ncl"⟩], databases := ["redis", "rocksdb", "redis"] } }, .standard,
      Chart.elements⟩
    let t := (Tree.empty.plant
      ["results", "rocksdb", "run", "cephfs", "rocksdb_workloadb_cephfs_trail2.yml"]
        (.file (.text "throughput: 2000\n"))).plant
      ["results", "recover", "redis", "ncl.csv"] (.file (.text "end_recover,5000000\n"))
    s.Styled .ycsb ∧ s.Styled .recovery ∧
      (∃ m, Loads s.layout t (s.runs "rocksdb" ⟨"cephfs"⟩ b) 2 m) ∧
      (∀ trial ∈ List.range' 1 s.config.trials,
        ¬ ∃ m, Loads s.layout t (s.runs "rocksdb" ⟨"cephfs"⟩ a) trial m) ∧
      (∃ drawn, s.artifacts (s.read t .ycsb) = .ok drawn ∧
        s.render t .ycsb = s.writeAll t drawn ∧
        List.Forall₂ (fun d a => ∃ c, s.ShowsDatabase t d a c) s.config.ycsb.databases drawn) ∧
      ∃ a c, s.artifacts (s.read t .recovery) = .ok [a] ∧
        s.render t .recovery = s.writeAll t [a] ∧ a.name = "recovery-time.svg" ∧
        a.chart = .stacked c ∧ c.categories = s.config.recovery.databases ∧
        List.Forall₂ (s.ShowsRecoveries t) s.config.recovery.backends c.groups := by
  intro a b s t
  have hycsb : s.Styled .ycsb := by decide
  have hrecovery : s.Styled .recovery := by decide
  exact ⟨hycsb, hrecovery, by decide +kernel, by decide +kernel,
    (charts_aligned s t).1 hycsb, (charts_aligned s t).2 hrecovery⟩

end Study

end BenchCharts.Figure

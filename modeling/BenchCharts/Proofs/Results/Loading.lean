import BenchCharts.Proofs.Format.Records
import BenchCharts.Results.Trials
import Mathlib.Algebra.Ring.Nat

/-!
Which trials count. A trial is loaded if there is a file at its path, the file is a text, the text
holds a record of the phase, and every value of the record is finite. Whatever else becomes of the
file, the trial is skipped; the reader tells the two cases apart in its outcome and in its report.
-/
namespace BenchCharts.Results

open Files (Tree)
open Format (Kept Source)

/-- The text holds a record of the phase, and the values of the record are finite. -/
structure Holds (phase : TrialPhase) (text : String) (m : Measurement) : Prop where
  decoded : Yaml.decode (Measurement.read phase) text = .ok m
  throughput : m.throughput.isFinite = true
  latency : ∀ value, m.latency = some value → value.isFinite = true

namespace Measurement

theorem check_eq_ok_iff (m n : Measurement) :
    m.check = .ok n ↔ m = n ∧ n.throughput.isFinite = true ∧
      ∀ value, n.latency = some value → value.isFinite = true := by
  constructor
  · intro h
    have hfinite := isFinite_of_check m n h
    unfold check at h
    split at h
    · simp at h
    · split at h
      · split at h
        · exact ⟨by simpa using h, hfinite⟩
        · simp at h
      · exact ⟨by simpa using h, hfinite⟩
  · rintro ⟨rfl, hthroughput, hlatency⟩
    unfold check
    cases hvalue : m.latency with
    | none => simp [hthroughput]
    | some value => simp [hthroughput, hlatency value hvalue]

theorem parse_eq_ok_iff (phase : TrialPhase) (text : String) (m : Measurement) :
    parse phase text = .ok m ↔ Holds phase text m := by
  unfold parse
  split
  · next cause hdecode =>
    constructor
    · intro h
      simp at h
    · intro h
      have hok := h.decoded
      simp [hdecode] at hok
  · next n hdecode =>
    rw [check_eq_ok_iff]
    constructor
    · rintro ⟨rfl, hthroughput, hlatency⟩
      exact ⟨hdecode, hthroughput, hlatency⟩
    · intro h
      have hmn : n = m := by simpa [hdecode] using h.decoded
      exact ⟨hmn, h.throughput, h.latency⟩

/-- A load trial records a latency. -/
theorem latency_isSome_of_read {ν : Type} [Source ν] {node : ν} {m : Measurement}
    (h : read .load node = .ok m) : m.latency.isSome = true := by
  have hkept : Kept (ν := ν) [throughputField, insertField]
      (fun seen m => "INSERT" ∈ seen → m.latency.isSome = true) := by
    intro f hf node seen record result hrecord hread
    rcases List.mem_cons.mp hf with rfl | hf
    · obtain ⟨value, -, rfl⟩ := Format.Field.read_of hread
      simpa [throughputField, Format.Field.of] using hrecord
    · rw [List.mem_singleton] at hf
      subst hf
      obtain ⟨value, -, rfl⟩ := Format.Field.read_of hread
      simp
  obtain ⟨seen, hlatency, hseen⟩ := Format.readRecord_kept hkept (by simp) h
  exact hlatency (hseen insertField (by simp) rfl)

/-- A run trial records none. -/
theorem latency_eq_none_of_read {ν : Type} [Source ν] {node : ν} {m : Measurement}
    (h : read .run node = .ok m) : m.latency = none := by
  have hkept : Kept (ν := ν) [throughputField] (fun _ m => m.latency = none) := by
    intro f hf node seen record result hrecord hread
    rw [List.mem_singleton] at hf
    subst hf
    obtain ⟨value, -, rfl⟩ := Format.Field.read_of hread
    exact hrecord
  obtain ⟨seen, hlatency, -⟩ := Format.readRecord_kept hkept rfl h
  exact hlatency

end Measurement

/-- The file of a trial is there and holds a record. -/
def Loads (layout : Layout) (t : Tree) (query : TrialQuery) (trial : Nat) (m : Measurement) :
    Prop :=
  ∃ path text,
    layout.trialPath query.database query.phase query.backend.text query.configuration trial =
      .ok path ∧
    t.read path = .ok text ∧ Holds query.phase text m

/-- The record in the file of a trial. -/
def measurement? (layout : Layout) (t : Tree) (query : TrialQuery) (trial : Nat) :
    Option Measurement :=
  match layout.trialPath query.database query.phase query.backend.text query.configuration
    trial with
  | .error _ => none
  | .ok path =>
      match t.read path with
      | .error _ => none
      | .ok text => (Measurement.parse query.phase text).toOption

section
variable {layout : Layout} {t : Tree} {query : TrialQuery} {trial : Nat} {m : Measurement}

theorem measurement?_eq_some_iff :
    measurement? layout t query trial = some m ↔ Loads layout t query trial m := by
  unfold measurement? Loads
  cases hpath : layout.trialPath query.database query.phase query.backend.text
      query.configuration trial with
  | error e => simp
  | ok path =>
    cases hread : t.read path with
    | error e => simp [hread]
    | ok text =>
      simp only [Except.ok.injEq, exists_and_left, exists_eq_left', hread]
      rw [← Measurement.parse_eq_ok_iff]
      cases Measurement.parse query.phase text <;> simp [Except.toOption]

theorem isSome_measurement?_iff :
    (measurement? layout t query trial).isSome = true ↔ ∃ m, Loads layout t query trial m := by
  rw [Option.isSome_iff_exists]
  exact exists_congr fun m => measurement?_eq_some_iff

instance : Decidable (∃ m, Loads layout t query trial m) :=
  decidable_of_iff _ isSome_measurement?_iff

theorem Loads.isFinite_throughput (h : Loads layout t query trial m) :
    m.throughput.isFinite = true := by
  obtain ⟨path, text, -, -, hholds⟩ := h
  exact hholds.throughput

theorem Loads.read_eq_ok (h : Loads layout t query trial m) :
    ∃ cell : Yaml.Cell, Measurement.read query.phase cell = .ok m := by
  obtain ⟨path, text, -, -, hholds⟩ := h
  have hdecode := hholds.decoded
  unfold Yaml.decode at hdecode
  cases hread : Measurement.read query.phase
      (⟨Yaml.Document.parse text, (Yaml.Document.parse text).root⟩ : Yaml.Cell) with
  | error e => simp [hread, bind, Except.bind] at hdecode
  | ok n =>
    simp only [hread, bind, Except.bind] at hdecode
    split at hdecode
    · have hnm : n = m := by simpa [pure, Except.pure] using hdecode
      exact ⟨_, hnm ▸ hread⟩
    · simp at hdecode

/-- A load trial that counts has a finite latency. -/
theorem Loads.latency_of_load (h : Loads layout t query trial m) (hphase : query.phase = .load) :
    ∃ value, m.latency = some value ∧ value.isFinite = true := by
  obtain ⟨cell, hread⟩ := h.read_eq_ok
  rw [hphase] at hread
  obtain ⟨value, hvalue⟩ := Option.isSome_iff_exists.mp (Measurement.latency_isSome_of_read hread)
  obtain ⟨path, text, -, -, hholds⟩ := h
  exact ⟨value, hvalue, hholds.latency value hvalue⟩

theorem Loads.latency_of_run (h : Loads layout t query trial m) (hphase : query.phase = .run) :
    m.latency = none := by
  obtain ⟨cell, hread⟩ := h.read_eq_ok
  rw [hphase] at hread
  exact Measurement.latency_eq_none_of_read hread

end

/-- What a trial with a given record contributes to a series. -/
def TrialQuery.sample (query : TrialQuery) (trial : Nat) (m : Measurement) : Sample Float where
  backend := query.backend
  database := query.database
  configuration := query.configuration
  trial
  latency := m.latency
  throughput := some m.throughput

/-- The trials of a query that count, in ascending order. -/
def loadedTrials (layout : Layout) (t : Tree) (query : TrialQuery) : List Nat :=
  (List.range' 1 query.trials).filter fun trial => ∃ m, Loads layout t query trial m

theorem value?_trialOutcome (layout : Layout) (t : Tree) (query : TrialQuery) (trial : Nat) :
    (trialOutcome layout t query trial).value? =
      (measurement? layout t query trial).map (query.sample trial) := by
  unfold trialOutcome measurement? Outcome.ofFile
  cases layout.trialPath query.database query.phase query.backend.text query.configuration
    trial with
  | error cause => rfl
  | ok path =>
    dsimp only
    cases t.read path with
    | error e => cases e <;> rfl
    | ok text =>
      dsimp only
      cases Measurement.parse query.phase text <;> rfl

/-- The samples are those of the trials that count. -/
theorem samples_readTrials (layout : Layout) (t : Tree) (query : TrialQuery) :
    (readTrials layout t query).1 =
      (List.range' 1 query.trials).filterMap fun trial =>
        (measurement? layout t query trial).map (query.sample trial) := by
  simp only [readTrials, trialOutcomes]
  rw [List.filterMap_map, List.range'_eq_map_range, List.filterMap_map]
  congr 1
  funext n
  rw [Function.comp_apply, Function.comp_apply, value?_trialOutcome, Nat.add_comm]

theorem mem_samples_readTrials {layout : Layout} {t : Tree} {query : TrialQuery}
    {s : Sample Float} (h : s ∈ (readTrials layout t query).1) :
    ∃ trial m, Loads layout t query trial m ∧ s = query.sample trial m := by
  rw [samples_readTrials] at h
  obtain ⟨trial, -, hsample⟩ := List.mem_filterMap.mp h
  obtain ⟨m, hm, hs⟩ := Option.map_eq_some_iff.mp hsample
  exact ⟨trial, m, measurement?_eq_some_iff.mp hm, hs.symm⟩

theorem length_samples_readTrials (layout : Layout) (t : Tree) (query : TrialQuery) :
    (readTrials layout t query).1.length = (loadedTrials layout t query).length := by
  rw [samples_readTrials, loadedTrials, List.length_filterMap_eq_countP,
    ← List.countP_eq_length_filter]
  apply List.countP_congr
  intro trial htrial
  simp [isSome_measurement?_iff]

namespace Report

/-- A number that adds up over two reports adds up over all of them. -/
theorem total_additive (count : Report → Nat) (hempty : count empty = 0)
    (hadd : ∀ a b, count (a + b) = count a + count b) (reports : List Report) :
    count (total reports) = (reports.map count).sum := by
  have hfold : ∀ start, count (reports.foldl (· + ·) start) =
      count start + (reports.map count).sum := by
    induction reports with
    | nil => simp
    | cons r rest ih =>
      intro start
      rw [List.foldl_cons, ih, hadd, List.map_cons, List.sum_cons, Nat.add_assoc]
  rw [total, hfold, hempty, Nat.zero_add]

theorem loaded_total (reports : List Report) :
    (total reports).loaded = (reports.map (·.loaded)).sum :=
  total_additive (·.loaded) rfl (fun _ _ => rfl) reports

theorem skipped_total (reports : List Report) :
    (total reports).skipped = (reports.map (·.skipped)).sum := by
  apply total_additive (·.skipped) rfl
  intro a b
  simp only [skipped]
  change a.absent + b.absent + (a.malformed + b.malformed) = _
  omega

end Report

theorem Outcome.loaded_report {ε α : Type} (o : Outcome ε α) :
    o.report.loaded = o.value?.toList.length := by
  cases o <;> rfl

theorem Outcome.loaded_add_skipped {ε α : Type} (o : Outcome ε α) :
    o.report.loaded + o.report.skipped = 1 := by
  cases o <;> rfl

/-- As many trials are reported as loaded as there are samples. -/
theorem loaded_readTrials (layout : Layout) (t : Tree) (query : TrialQuery) :
    (readTrials layout t query).2.loaded = (readTrials layout t query).1.length := by
  unfold readTrials
  rw [Report.loaded_total, List.map_map]
  induction trialOutcomes layout t query with
  | nil => rfl
  | cons o rest ih =>
    simp only [List.map_cons, List.sum_cons, Function.comp_apply, ih, Outcome.loaded_report,
      List.filterMap_cons]
    cases o.value? with
    | none => simp
    | some s => simp [Nat.add_comm]

/-- Every trial is reported once. -/
theorem loaded_add_skipped_readTrials (layout : Layout) (t : Tree) (query : TrialQuery) :
    (readTrials layout t query).2.loaded + (readTrials layout t query).2.skipped =
      query.trials := by
  have hlength : (trialOutcomes layout t query).length = query.trials := by
    simp [trialOutcomes]
  unfold readTrials
  rw [Report.loaded_total, Report.skipped_total, ← hlength]
  clear hlength
  induction trialOutcomes layout t query with
  | nil => rfl
  | cons o rest ih =>
    have hone := o.loaded_add_skipped
    simp only [List.map_cons, List.sum_cons, List.length_cons] at ih ⊢
    omega

end BenchCharts.Results

import BenchCharts.Proofs.Chart.Measures
import BenchCharts.Proofs.CommandLine.DrawingAll
import BenchCharts.Proofs.Config.Sections
import BenchCharts.Proofs.Figure.Frame

/-!
Which figures are broken off for their sizes. Sizes in a chart depend on the configuration and the
styles alone, so a figure is broken off for them on every tree or on none, and it takes letters far
larger than any canvas. A run of all figures is broken off if one of them is. Pixels can be out of
range as well, but are not what the sizes tell of.
-/
namespace BenchCharts.Figure.Study

open Chart (InRange)
open Files (Tree)

variable {s : Study} {t : Tree} {kind : Kind}

/-- The most lines of a label under the bars of the figure of inserts. -/
def labelLines (s : Study) : Nat :=
  ((s.config.sqliteInsert.backends.filterMap fun id => (s.registry.lookup id).toOption).map
    fun style => (Text.lines style.tickLabel).length).max?.getD 1

/-- The rows of the longer legend over the figure of recoveries. -/
def legendRows (s : Study) : Nat :=
  max s.config.recovery.backends.length s.config.recovery.hatches.length

/-- All sizes in the charts of a figure are in range. -/
def Measurable (s : Study) : Kind → Prop
  | .insertOnly => InRange (Chart.BrokenAxis.splitHeight s.config.insertOnly.canvas.height)
  | .sqliteInsert => InRange (Chart.SideBySide.labelRoom s.labelLines s.config.pen) ∧
      InRange (Chart.SideBySide.marginTop s.config.pen)
  | .rawWrite => InRange (Chart.BrokenAxis.splitHeight s.config.rawWrite.canvas.height)
  | .recovery =>
      InRange (Chart.Stacked.bandHeight s.config.recovery.canvas.height s.legendRows s.config.pen)
  | .ycsb | .rawRead => True

/-! ## Charts of a figure -/

/-- A size of the chart is out of range. -/
def TooLarge (s : Study) (a : Artifact) : Prop :=
  a.chart.elements a.size s.config.pen = .error .tooLarge

theorem max?_append_self (xs : List Nat) : (xs ++ xs).max? = xs.max? := by
  cases h : xs.max? with
  | none =>
    rw [List.max?_eq_none_iff] at h
    simp [h]
  | some greatest =>
    rw [List.max?_eq_some_iff] at h ⊢
    simpa using h

/-- Two panels with the bars of all backends have the labels of all backends. -/
theorem labelLines_eq {c : Chart.SideBySide} {first second : Chart.BarPanel}
    {styles : List Style.Entry} (hpanels : c.panels = [first, second])
    (hfirst : first.bars.map (·.1) = styles) (hsecond : second.bars.map (·.1) = styles)
    (hstyles : styles.map some =
      s.config.sqliteInsert.backends.map fun id => (s.registry.lookup id).toOption) :
    c.labelLines = s.labelLines := by
  have hlines : c.labelLines = (c.panels.flatMap fun p =>
      (p.bars.map (·.1)).map fun style => (Text.lines style.tickLabel).length).max?.getD 1 := by
    unfold Chart.SideBySide.labelLines
    simp only [List.map_map]
    rfl
  have hknown : (s.config.sqliteInsert.backends.filterMap fun id =>
      (s.registry.lookup id).toOption) = styles := by
    have hall := congrArg (List.filterMap id) hstyles
    rw [List.filterMap_map, List.filterMap_map] at hall
    simpa using hall.symm
  rw [hlines, hpanels, List.flatMap_cons, List.flatMap_singleton, hfirst, hsecond,
    max?_append_self, labelLines, hknown]

theorem tooLarge_sqliteInsert {a : Artifact}
    (h : s.sqliteInsertChart (s.sqliteInsertSeries t) = .ok a) :
    s.TooLarge a ↔ ¬ s.Measurable .sqliteInsert := by
  obtain ⟨points, hpoints, rfl⟩ := (bind_pure_eq_ok_iff _).mp h
  unfold sqliteInsertSeries at hpoints
  dsimp only at hpoints
  rw [List.mapM_map] at hpoints
  have hstyles : (points.map (·.1)).map some =
      s.config.sqliteInsert.backends.map fun id => (s.registry.lookup id).toOption := by
    rw [List.map_map]
    refine map_of_mapM hpoints ?_
    intro id p hp
    obtain ⟨style, hstyle, rfl⟩ := (bind_pure_eq_ok_iff _).mp hp
    exact (toOption_eq_some_iff.mpr hstyle).symm
  unfold TooLarge
  refine (Chart.SideBySide.tooLarge_iff (by simp)).trans ?_
  rw [labelLines_eq rfl (by simp) (by simp) hstyles]
  rfl

/-- The charts of a figure are all too large or none is, whatever the tree holds. -/
theorem tooLarge_iff {drawn : List Artifact} (h : s.artifacts (s.read t kind) = .ok drawn) :
    ∀ a ∈ drawn, s.TooLarge a ↔ ¬ s.Measurable kind := by
  cases kind with
  | insertOnly =>
    change s.insertOnlyCharts (s.config.insertOnly.databases.keys.map (s.insertOnlySeries t)) =
      .ok drawn at h
    intro a ha
    obtain ⟨panel, -, hchart⟩ := exists_of_forall₂ (forall₂_of_mapM h).flip ha
    obtain ⟨lines, -, rfl⟩ := (bind_pure_eq_ok_iff _).mp hchart
    exact Chart.BrokenAxis.tooLarge_iff _
  | sqliteInsert =>
    obtain ⟨a, ha, rfl⟩ := (map_eq_ok_iff _).mp h
    rw [List.forall_mem_singleton]
    exact tooLarge_sqliteInsert ha
  | ycsb =>
    change s.ycsbCharts (s.config.ycsb.databases.map fun d => s.ycsbSeries t d.database) =
      .ok drawn at h
    intro a ha
    obtain ⟨d, -, hchart⟩ := exists_of_forall₂ (forall₂_of_mapM h).flip ha
    obtain ⟨series, -, rfl⟩ := (bind_pure_eq_ok_iff _).mp hchart
    simp [TooLarge, Measurable, Chart.elements_eq_tooLarge_iff, Chart.sketch, pure_ne_error]
  | rawWrite =>
    obtain ⟨a, ha, rfl⟩ := (map_eq_ok_iff _).mp h
    obtain ⟨lines, -, rfl⟩ := (bind_pure_eq_ok_iff _).mp ha
    rw [List.forall_mem_singleton]
    exact Chart.BrokenAxis.tooLarge_iff _
  | rawRead =>
    obtain ⟨a, ha, rfl⟩ := (map_eq_ok_iff _).mp h
    obtain ⟨lines, -, rfl⟩ := (bind_pure_eq_ok_iff _).mp ha
    simp [TooLarge, Measurable, Chart.elements_eq_tooLarge_iff, Chart.sketch, pure_ne_error]
  | recovery =>
    obtain ⟨a, ha, rfl⟩ := (map_eq_ok_iff _).mp h
    obtain ⟨groups, hgroups, rfl⟩ := (bind_pure_eq_ok_iff _).mp ha
    have hlength := (forall₂_of_mapM hgroups).length_eq
    rw [List.forall_mem_singleton]
    refine (Chart.Stacked.tooLarge_iff _).trans ?_
    unfold Chart.Stacked.rows
    rw [← hlength]
    rfl

/-! ## Figures -/

end BenchCharts.Figure.Study

namespace BenchCharts.CommandLine.BenchFigures

open Chart (InRange)
open Figure (Artifact Kind Study)
open Files (Tree)

variable {s : Study} {t : Tree} {kind : Kind}

end BenchCharts.CommandLine.BenchFigures

import BenchCharts.Proofs.Chart.EmptyLines
import BenchCharts.Proofs.Figure.Styles

/-!
Backends without results in the figures with lines. In the figures of sizes they have no line and
are not in the legend. In the figure of loading they have a line without points, which nothing is
drawn for, but which the legend names like all others.
-/
namespace BenchCharts.Figure

open Canvas (Element Sketch)
open Chart (BrokenAxis StyledLine)
open Files (Tree)
open Style (BackendId Entry StyleError)

/-- The points of a size sweep; one that could not be read has none. -/
def NamedSizes.points (n : NamedSizes) : List (Float × Float) :=
  match n.sizes with
  | some sizes => sizes.points
  | none => []

namespace Study

variable {s : Study} {t : Tree}

/-- The lines of some backends, whether or not they have any points. -/
def styledLines (s : Study) (label : Entry → String)
    (rows : List (BackendId × List (Float × Float))) : Except StyleError (List StyledLine) :=
  rows.mapM fun row => do
    let style ← s.registry.lookup row.1
    return ⟨style, label style, row.2⟩

/-- The points of the backends in the figure of loading. -/
def loadRows (s : Study) (t : Tree) (database : String) :
    List (BackendId × List (Float × Float)) :=
  (s.insertOnlySeries t database).series.map fun p => (p.backend, throughputLatency p.points)

def writeRows (s : Study) (t : Tree) : List (BackendId × List (Float × Float)) :=
  (s.config.rawWrite.backends.map (s.rawWriteSizes t)).map fun n => (n.backend, n.points)

def readRows (s : Study) (t : Tree) : List (BackendId × List (Float × Float)) :=
  (s.config.rawRead.lines.map (s.rawReadSizes t)).map fun n => (n.backend, n.points)

/-- A line is left out if it has no points. -/
theorem line?_eq_guard (n : NamedSizes) (style : Entry) (label : String) :
    ((n.sizes.filter fun sizes => !sizes.isEmpty).map fun sizes =>
      (⟨style, label, sizes.points⟩ : StyledLine)) =
      Option.guard StyledLine.hasPoints ⟨style, label, n.points⟩ := by
  unfold NamedSizes.points StyledLine.hasPoints
  cases n.sizes with
  | none => rfl
  | some sizes =>
    obtain ⟨buckets⟩ := sizes
    cases buckets <;> rfl

theorem sizeLines_of_styledLines {label : Entry → String} {sizes : List NamedSizes}
    {lines : List StyledLine}
    (h : s.styledLines label (sizes.map fun n => (n.backend, n.points)) = .ok lines) :
    s.sizeLines label sizes = .ok (lines.filter StyledLine.hasPoints) := by
  let line? (n : NamedSizes) : Except StyleError (Option StyledLine) := do
    let style ← s.registry.lookup n.backend
    return (n.sizes.filter fun sizes => !sizes.isEmpty).map fun sizes =>
      ⟨style, label style, sizes.points⟩
  unfold styledLines at h
  rw [List.mapM_map] at h
  have hsizes : sizes.mapM line? = .ok (lines.map (Option.guard StyledLine.hasPoints)) := by
    apply mapM_of_mapM h
    intro n l hl
    obtain ⟨style, hstyle, rfl⟩ := (bind_pure_eq_ok_iff _).mp hl
    rw [← line?_eq_guard]
    exact (bind_pure_eq_ok_iff _).mpr ⟨style, hstyle, rfl⟩
  change (sizes.mapM line? >>= fun shown => pure (shown.filterMap id)) = _
  rw [hsizes]
  show Except.ok _ = _
  rw [List.filterMap_map, Function.id_comp, List.filterMap_eq_filter]

theorem exists_styledLines (label : Entry → String) (rows : List (BackendId × List (Float × Float)))
    (h : ∀ row ∈ rows, s.registry.Knows row.1) : ∃ lines, s.styledLines label rows = .ok lines := by
  unfold styledLines
  rw [exists_mapM_eq_ok_iff]
  intro row hrow
  obtain ⟨style, hstyle⟩ := Style.Registry.exists_lookup_eq_ok_iff.mpr (h row hrow)
  exact ⟨_, (bind_eq_ok_iff _).mpr ⟨style, hstyle, rfl⟩⟩

/-- The chart of a database has a line for every backend. Without the empty ones it would be the
same but for the legend, and the legend would be the same if no line in it is empty. -/
structure ShowsLoads (s : Study) (t : Tree) (database : String) (a : Artifact)
    (lines : List StyledLine) (c : BrokenAxis) : Prop where
  name_eq : a.name = database ++ "_lattput.svg"
  chart_eq : a.chart = .broken c
  styled : s.styledLines Entry.displayName (s.loadRows t database) = .ok lines
  lines_eq : c.lines = lines
  legend_iff : c.legend s.config.pen =
      ((lines.filter StyledLine.hasPoints).filter (·.style.isPrimary)).map
        (·.legendEntry s.config.pen) ↔
    ∀ l ∈ lines, l.style.isPrimary = true → l.hasPoints = true
  elements : ∀ height, ∃ (panels : Sketch BrokenAxis.Panels)
    (before after : BrokenAxis.Panels → Sketch (List Element)), ∀ chart ∈ [c, c.nonempty],
      chart.elements a.size s.config.pen height = do
        let p ← panels
        let first ← before p
        let legend ← Canvas.Legend.elements p.upper.area (chart.legend s.config.pen)
          s.config.pen.fontSize true
        return first ++ legend ++ (← after p)

theorem showsLoads_of_insertOnlyChart {database : String} {ranges : Config.PanelRanges}
    {a : Artifact} (h : s.insertOnlyChart (s.insertOnlySeries t database) ranges = .ok a) :
    ∃ lines c, s.ShowsLoads t database a lines c := by
  obtain ⟨lines, hlines, rfl⟩ := (bind_pure_eq_ok_iff _).mp h
  refine ⟨lines, _, rfl, rfl, ?_, rfl, ?_, ?_⟩
  · unfold styledLines loadRows
    rw [List.mapM_map]
    exact hlines
  · have hiff := BrokenAxis.legend_nonempty_iff (⟨throughputText, latencyText, .linear, none,
      ranges.lower, ranges.upper, lines⟩ : BrokenAxis) s.config.pen
    rw [eq_comm] at hiff
    exact hiff
  · intro height
    exact BrokenAxis.elements_nonempty _ _ _ height

theorem showsLoads_of_artifacts {drawn : List Artifact}
    (h : s.artifacts (s.read t .insertOnly) = .ok drawn) :
    List.Forall₂ (fun database a => ∃ lines c, s.ShowsLoads t database a lines c)
      s.config.insertOnly.databases.keys drawn := by
  change s.insertOnlyCharts (s.config.insertOnly.databases.keys.map (s.insertOnlySeries t)) =
    .ok drawn at h
  rw [insertOnlyCharts_map s _ (s.insertOnlySeries t) id fun _ => rfl] at h
  have hall := forall₂_of_mapM h
  rw [List.forall₂_map_left_iff] at hall
  rw [← panels_map_fst s.config.insertOnly.databases, List.forall₂_map_left_iff]
  exact hall.imp fun panel a hchart => showsLoads_of_insertOnlyChart hchart

/-- The legend of a database names a backend on the primary side whatever its points are. -/
theorem mem_legend_of_loadRow {drawn : List Artifact}
    (h : s.artifacts (s.read t .insertOnly) = .ok drawn) {database : String}
    (hdatabase : database ∈ s.config.insertOnly.databases.keys)
    {row : BackendId × List (Float × Float)} (hrow : row ∈ s.loadRows t database) {style : Entry}
    (hstyle : s.registry.lookup row.1 = .ok style) (hprimary : style.isPrimary = true) :
    ∃ a ∈ drawn, ∃ c, a.name = database ++ "_lattput.svg" ∧ a.chart = .broken c ∧
      (⟨style, style.displayName, row.2⟩ : StyledLine).legendEntry s.config.pen ∈
        c.legend s.config.pen := by
  obtain ⟨a, ha, lines, c, hshown⟩ := exists_of_forall₂ (showsLoads_of_artifacts h) hdatabase
  obtain ⟨l, hl, hline⟩ := exists_of_forall₂ (forall₂_of_mapM hshown.styled) hrow
  obtain ⟨style', hstyle', rfl⟩ := (bind_pure_eq_ok_iff _).mp hline
  obtain rfl := Except.ok.inj (hstyle.symm.trans hstyle')
  refine ⟨a, ha, c, hshown.name_eq, hshown.chart_eq, List.mem_map_of_mem ?_⟩
  unfold BrokenAxis.drawn
  rw [hshown.lines_eq]
  exact List.mem_filter.mpr ⟨hl, hprimary⟩

/-- The figures of sizes show the backends with points, and the figure of loading names all. -/
theorem absent_backends (s : Study) (t : Tree) :
    (s.Styled .rawWrite → ∃ lines c,
      s.styledLines Entry.sizeLabel (s.writeRows t) = .ok lines ∧
      s.artifacts (s.read t .rawWrite) =
        .ok [⟨"write_lat.svg", s.config.rawWrite.canvas, .broken c⟩] ∧
      c.lines = lines.filter StyledLine.hasPoints ∧
      c.legend s.config.pen = ((lines.filter StyledLine.hasPoints).filter (·.style.isPrimary)).map
        (·.legendEntry s.config.pen)) ∧
    (s.Styled .rawRead → ∃ lines c,
      s.styledLines Entry.displayName (s.readRows t) = .ok lines ∧
      s.artifacts (s.read t .rawRead) =
        .ok [⟨"read_lat.svg", s.config.rawRead.canvas, .logLog c⟩] ∧
      c.lines = lines.filter StyledLine.hasPoints ∧
      c.legend s.config.pen = (lines.filter StyledLine.hasPoints).map
        (·.legendEntry s.config.pen)) ∧
    (s.Styled .insertOnly → ∃ drawn, s.artifacts (s.read t .insertOnly) = .ok drawn ∧
      List.Forall₂ (fun database a => ∃ lines c, s.ShowsLoads t database a lines c)
        s.config.insertOnly.databases.keys drawn) := by
  refine ⟨?_, ?_, ?_⟩
  · intro hstyled
    obtain ⟨lines, hlines⟩ := exists_styledLines Entry.sizeLabel (s.writeRows t) (by
      intro row hrow
      obtain ⟨n, hn, rfl⟩ := List.mem_map.mp hrow
      obtain ⟨id, hid, rfl⟩ := List.mem_map.mp hn
      exact hstyled id hid)
    obtain ⟨drawn, hdrawn⟩ := exists_artifacts_eq_ok hstyled t
    obtain ⟨a, ha, rfl⟩ := (map_eq_ok_iff _).mp hdrawn
    obtain ⟨shown, hshown, rfl⟩ := (bind_pure_eq_ok_iff _).mp ha
    obtain rfl := Except.ok.inj ((sizeLines_of_styledLines hlines).symm.trans hshown)
    exact ⟨lines, _, hlines, hdrawn, rfl, rfl⟩
  · intro hstyled
    obtain ⟨lines, hlines⟩ := exists_styledLines Entry.displayName (s.readRows t) (by
      intro row hrow
      obtain ⟨n, hn, rfl⟩ := List.mem_map.mp hrow
      obtain ⟨line, hline, rfl⟩ := List.mem_map.mp hn
      exact hstyled line.style (List.mem_map_of_mem hline))
    obtain ⟨drawn, hdrawn⟩ := exists_artifacts_eq_ok hstyled t
    obtain ⟨a, ha, rfl⟩ := (map_eq_ok_iff _).mp hdrawn
    obtain ⟨shown, hshown, rfl⟩ := (bind_pure_eq_ok_iff _).mp ha
    obtain rfl := Except.ok.inj ((sizeLines_of_styledLines hlines).symm.trans hshown)
    exact ⟨lines, _, hlines, hdrawn, rfl, rfl⟩
  · intro hstyled
    obtain ⟨drawn, hdrawn⟩ := exists_artifacts_eq_ok hstyled t
    exact ⟨drawn, hdrawn, showsLoads_of_artifacts hdrawn⟩

/-- Loads of one backend only. -/
def oneLoaded : Tree :=
  Tree.empty.plant ["results", "redis", "load", "sync", "redis_load_sync_th2_trail1.yml"]
    (.file (.text "throughput: 2000\nINSERT:\n  avg: 50\n"))

theorem absent_backends_oneLoaded :
    let s : Study := ⟨⟨⟨"results"⟩⟩, .standard, .standard, Chart.elements⟩
    s.Styled .rawWrite ∧ s.Styled .rawRead ∧ s.Styled .insertOnly ∧
    (∃ lines c, s.styledLines Entry.sizeLabel (s.writeRows oneLoaded) = .ok lines ∧
      s.artifacts (s.read oneLoaded .rawWrite) =
        .ok [⟨"write_lat.svg", s.config.rawWrite.canvas, .broken c⟩] ∧
      c.lines = lines.filter StyledLine.hasPoints) ∧
    (∃ lines c, s.styledLines Entry.displayName (s.readRows oneLoaded) = .ok lines ∧
      s.artifacts (s.read oneLoaded .rawRead) =
        .ok [⟨"read_lat.svg", s.config.rawRead.canvas, .logLog c⟩] ∧
      c.lines = lines.filter StyledLine.hasPoints) ∧
    ∃ drawn, s.artifacts (s.read oneLoaded .insertOnly) = .ok drawn ∧
      List.Forall₂ (fun database a => ∃ lines c, s.ShowsLoads oneLoaded database a lines c)
        s.config.insertOnly.databases.keys drawn := by
  intro s
  have hwrites : s.Styled .rawWrite := by decide
  have hreads : s.Styled .rawRead := by decide
  have hloads : s.Styled .insertOnly := by decide
  obtain ⟨hwrite, hread, hload⟩ := absent_backends s oneLoaded
  obtain ⟨lines, c, hlines, hdrawn, hshown, -⟩ := hwrite hwrites
  obtain ⟨lines', c', hlines', hdrawn', hshown', -⟩ := hread hreads
  exact ⟨hwrites, hreads, hloads, ⟨lines, c, hlines, hdrawn, hshown⟩,
    ⟨lines', c', hlines', hdrawn', hshown'⟩, hload hloads⟩

/-- The legend of the one database with loads names two backends that were not measured. -/
theorem legend_names_absent :
    let s : Study := ⟨⟨⟨"results"⟩⟩, { Config.Figures.standard with
      trials := 1
      insertOnly := { Config.InsertOnly.standard with threads := [2] } }, .standard,
      Chart.elements⟩
    (∀ row ∈ s.loadRows oneLoaded "redis", row.2 = [] ↔ row.1 ≠ ⟨"sync"⟩) ∧
    ∃ drawn, s.artifacts (s.read oneLoaded .insertOnly) = .ok drawn ∧
      ∀ id ∈ [BackendId.mk "cephfs", BackendId.mk "sync_ncl"], ∃ a ∈ drawn, ∃ c style points,
        a.name = "redis_lattput.svg" ∧ a.chart = .broken c ∧ s.registry.lookup id = .ok style ∧
        (id, points) ∈ s.loadRows oneLoaded "redis" ∧
        (⟨style, style.displayName, points⟩ : StyledLine).legendEntry s.config.pen ∈
          c.legend s.config.pen := by
  intro s
  have hrows : ∀ row ∈ s.loadRows oneLoaded "redis", row.2 = [] ↔ row.1 ≠ ⟨"sync"⟩ := by
    decide +kernel
  have hstyled : s.Styled .insertOnly := by decide
  obtain ⟨drawn, hdrawn⟩ := exists_artifacts_eq_ok hstyled oneLoaded
  refine ⟨hrows, drawn, hdrawn, ?_⟩
  intro id hid
  have hloaded : ∀ id ∈ [BackendId.mk "cephfs", BackendId.mk "sync_ncl"], id ∈ s.loaded ∧
      (s.registry.find? id).any (·.isPrimary) = true := by decide +kernel
  obtain ⟨hmem, hprimary⟩ := hloaded id hid
  rw [Option.any_eq_true] at hprimary
  obtain ⟨style, hfind, hprimary⟩ := hprimary
  have hlookup := (Style.Registry.lookup_eq_ok_iff _ _ _).mpr hfind
  have hrow : (id, throughputLatency (Series.threadSweep s.layout oneLoaded "redis" id
      s.config.insertOnly.threads (s.config.insertOnly.threadRanges.get? id.text)
      s.config.trials).points) ∈ s.loadRows oneLoaded "redis" := by
    unfold loadRows insertOnlySeries
    rw [List.map_map]
    exact List.mem_map_of_mem hmem
  obtain ⟨a, ha, c, hname, hchart, hlegend⟩ :=
    mem_legend_of_loadRow hdrawn (by decide +kernel) hrow hlookup hprimary
  exact ⟨a, ha, c, style, _, hname, hchart, hlookup, hrow, hlegend⟩

end Study

end BenchCharts.Figure

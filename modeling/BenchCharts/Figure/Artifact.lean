import BenchCharts.Figure.Data

/-!
The charts of a figure. Each is drawn from the data of the figure alone and has a file name; a
figure with several databases has a chart for each of them.
-/
namespace BenchCharts.Figure

open Canvas (CanvasSize)
open Chart (Bar BarPanel BarSeries StackedGroup StyledLine)
open Results (Workload)
open Series (Point PointSeries RecoveryTrace SizeSeries)
open Style (BackendId Entry StyleError)

/-- A chart with the name of its file. -/
structure Artifact where
  name : String
  size : CanvasSize
  chart : Chart
  deriving Repr

def latencyText : String := "Latency (μs)"

def throughputText : String := "Throughput (KOps/s)"

def sizeText : String := "Size (bytes)"

/-- Latency over throughput, for the points that have both. -/
def throughputLatency (points : List (Point Float)) : List (Float × Float) :=
  points.filterMap fun p =>
    match p.throughputThousands?, p.latency with
    | some throughput, some latency => some (throughput, latency)
    | _, _ => none

/-- The bar of a workload, if the workload was run. -/
def workloadBar (points : List (Point Float)) (w : Workload) : Option (Bar Float) := do
  let p ← points.find? fun p => p.configuration = .workload w
  return ⟨← p.throughputThousands?, p.deviationThousands?⟩

namespace Study

def insertOnlyChart (s : Study) (d : DatabaseSeries) (ranges : Config.PanelRanges) :
    Except StyleError Artifact := do
  let lines ← d.series.mapM fun p => do
    let style ← s.registry.lookup p.backend
    return (⟨style, style.displayName, throughputLatency p.points⟩ : StyledLine)
  return {
    name := d.database ++ "_lattput.svg"
    size := s.config.insertOnly.canvas
    chart := .broken {
      xDescription := throughputText
      yDescription := latencyText
      xScale := .linear
      xRange := none
      lower := ranges.lower
      upper := ranges.upper
      lines } }

/-- Databases without panels have no chart. -/
def insertOnlyCharts (s : Study) (databases : List DatabaseSeries) :
    Except StyleError (List Artifact) :=
  (databases.filterMap fun d =>
    (s.config.insertOnly.databases.get? d.database).map fun ranges => (d, ranges)).mapM
      fun (d, ranges) => s.insertOnlyChart d ranges

/-- Which databases have a chart depends on their names only. -/
theorem insertOnlyCharts_map (s : Study) {α : Type} (xs : List α) (f : α → DatabaseSeries)
    (name : α → String) (h : ∀ x, (f x).database = name x) :
    s.insertOnlyCharts (xs.map f) =
      ((xs.filterMap fun x =>
        (s.config.insertOnly.databases.get? (name x)).map fun ranges => (x, ranges)).map
          fun panel => (f panel.1, panel.2)).mapM
            fun (d, ranges) => s.insertOnlyChart d ranges := by
  unfold insertOnlyCharts
  rw [List.filterMap_map, List.map_filterMap]
  congr 2
  funext x
  simp only [Function.comp_apply, Option.map_map, h]
  rfl

def sqliteInsertChart (s : Study) (d : DatabaseSeries) : Except StyleError Artifact := do
  let c := s.config.sqliteInsert
  let points ← d.series.mapM fun p => do
    return (← s.registry.lookup p.backend, p.points.head?)
  let throughput := points.map fun (style, p) => (style, p.bind (·.throughputThousands?))
  let latency := points.map fun (style, p) => (style, p.bind (·.latency))
  return {
    name := d.database ++ "_lattput.svg"
    size := c.canvas
    chart := .sideBySide {
      positions := c.positions
      xRange := c.xRange
      barWidth := c.barWidth
      panels := [⟨throughputText, .linear, none, throughput⟩,
        ⟨latencyText, .log, some c.latencyRange, latency⟩] } }

/-- The bars of a database; the series at the legend's position carries its label. -/
def ycsbSeriesBars (s : Study) (d : DatabaseSeries) (legendPosition : Nat) :
    Except StyleError (List (BarSeries Float)) :=
  d.series.zipIdx.mapM fun (p, i) => do
    let style ← s.registry.lookup p.backend
    return {
      style
      label := if i = legendPosition then some style.displayName else none
      bars := s.config.ycsb.workloads.map (workloadBar p.points) }

def ycsbChart (s : Study) (d : DatabaseSeries) (database : Config.YcsbDatabase) :
    Except StyleError Artifact := do
  let c := s.config.ycsb
  let series ← s.ycsbSeriesBars d database.legendPosition
  return {
    name := d.database ++ "_ycsb.svg"
    size := c.canvas
    chart := .grouped {
      categories := c.workloads.map (·.text)
      xDescription := "Workload"
      yDescription := throughputText
      barWidth := c.barWidth
      yRange := none
      series } }

def ycsbCharts (s : Study) (databases : List DatabaseSeries) :
    Except StyleError (List Artifact) :=
  (databases.zip s.config.ycsb.databases).mapM fun (d, database) => s.ycsbChart d database

/-- A line for each sweep that has any sizes. -/
def sizeLines (s : Study) (label : Entry → String) (sizes : List NamedSizes) :
    Except StyleError (List StyledLine) := do
  let lines ← sizes.mapM fun n => do
    let style ← s.registry.lookup n.backend
    return (n.sizes.filter fun sizes => !sizes.isEmpty).map fun sizes =>
      (⟨style, label style, sizes.points⟩ : StyledLine)
  return lines.filterMap id

def rawWriteChart (s : Study) (sizes : List NamedSizes) : Except StyleError Artifact := do
  let c := s.config.rawWrite
  return {
    name := "write_lat.svg"
    size := c.canvas
    chart := .broken {
      xDescription := sizeText
      yDescription := latencyText
      xScale := .log
      xRange := some c.sizeWindow
      lower := c.ranges.lower
      upper := c.ranges.upper
      lines := ← s.sizeLines Entry.sizeLabel sizes } }

def rawReadChart (s : Study) (sizes : List NamedSizes) : Except StyleError Artifact := do
  let c := s.config.rawRead
  return {
    name := "read_lat.svg"
    size := c.canvas
    chart := .logLog {
      xDescription := sizeText
      yDescription := latencyText
      xRange := c.sizeWindow
      yRange := none
      lines := ← s.sizeLines Entry.displayName sizes } }

/-- The first recovery of a backend and database, unless it has no phases. -/
def traceOf (entries : List RecoveryEntry) (id : BackendId) (database : String) :
    Option (RecoveryTrace Float) :=
  ((entries.find? fun e => e.backend = id && e.database = database).bind (·.trace)).filter
    fun t => !t.isEmpty

def recoveryChart (s : Study) (entries : List RecoveryEntry) : Except StyleError Artifact := do
  let c := s.config.recovery
  let groups ← c.backends.mapM fun id => do
    return (⟨← s.registry.lookup id, c.databases.map (traceOf entries id)⟩ : StackedGroup Float)
  return {
    name := "recovery-time.svg"
    size := c.canvas
    chart := .stacked {
      categories := c.databases
      yDescription := "Recovery time (ms)"
      barWidth := c.barWidth
      hatches := c.hatches
      groups } }

/-- The charts of a figure in the order in which they are written. -/
def artifacts (s : Study) : Data → Except StyleError (List Artifact)
  | .insertOnly databases => s.insertOnlyCharts databases
  | .sqliteInsert database => (s.sqliteInsertChart database).map fun a => [a]
  | .ycsb databases => s.ycsbCharts databases
  | .rawWrite sizes => (s.rawWriteChart sizes).map fun a => [a]
  | .rawRead sizes => (s.rawReadChart sizes).map fun a => [a]
  | .recovery entries => (s.recoveryChart entries).map fun a => [a]

end Study

end BenchCharts.Figure

import BenchCharts.Chart.Document
import BenchCharts.Config.Figures
import BenchCharts.Figure.Kind
import BenchCharts.Series.Sweep

/-!
What a figure is drawn from. Every backend that a figure shows must have a style, and that is
settled before any file is read. Missing and malformed files only leave gaps in the data.
-/
namespace BenchCharts.Figure

open Config (Figures)
open Files (Tree)
open Results (Layout)
open Series (PointSeries RecoveryTrace SizeSeries)
open Style (BackendId Registry StyleError)

/-- The sweeps of one database. -/
structure DatabaseSeries where
  database : String
  series : List PointSeries
  deriving Repr

/-- A size sweep, if its file could be read. -/
structure NamedSizes where
  backend : BackendId
  sizes : Option SizeSeries
  deriving Repr

/-- A recovery, if its file could be read. -/
structure RecoveryEntry where
  backend : BackendId
  database : String
  trace : Option (RecoveryTrace Float)
  deriving Repr

inductive Data
  | insertOnly (databases : List DatabaseSeries)
  | sqliteInsert (database : DatabaseSeries)
  | ycsb (databases : List DatabaseSeries)
  | rawWrite (lines : List NamedSizes)
  | rawRead (lines : List NamedSizes)
  | recovery (entries : List RecoveryEntry)
  deriving Repr

/-- Where results lie, what is drawn from them, how backends look, and how charts are drawn. -/
structure Study where
  layout : Layout
  config : Figures
  registry : Registry
  drawing : Chart.Drawing

namespace Study

/-- The backends of the figure of load sweeps, without those that are left out. -/
def loaded (s : Study) : List BackendId :=
  s.config.insertOnly.backends.filter fun id => !s.config.insertOnly.skipped.contains id

/-- The backends whose styles a figure needs. -/
def shown (s : Study) : Kind → List BackendId
  | .insertOnly => s.loaded
  | .sqliteInsert => s.config.sqliteInsert.backends
  | .ycsb => s.config.ycsb.backends
  | .rawWrite => s.config.rawWrite.backends
  | .rawRead => s.config.rawRead.lines.map (·.style)
  | .recovery => s.config.recovery.backends

def insertOnlySeries (s : Study) (t : Tree) (database : String) : DatabaseSeries where
  database
  series := s.loaded.map fun id =>
    Series.threadSweep s.layout t database id s.config.insertOnly.threads
      (s.config.insertOnly.threadRanges.get? id.text) s.config.trials

def sqliteInsertSeries (s : Study) (t : Tree) : DatabaseSeries where
  database := s.config.sqliteInsert.database
  series := s.config.sqliteInsert.backends.map fun id =>
    Series.threadSweep s.layout t s.config.sqliteInsert.database id
      [s.config.sqliteInsert.threads] none s.config.trials

def ycsbSeries (s : Study) (t : Tree) (database : String) : DatabaseSeries where
  database
  series := s.config.ycsb.backends.map fun id =>
    Series.workloadSweep s.layout t database id s.config.ycsb.workloads s.config.trials

def rawWriteSizes (s : Study) (t : Tree) (id : BackendId) : NamedSizes :=
  ⟨id, Series.sizeSweep s.layout t id .write .plain⟩

def rawReadSizes (s : Study) (t : Tree) (line : Config.RawReadLine) : NamedSizes :=
  ⟨line.style, Series.sizeSweep s.layout t line.source .read line.format⟩

def recoveryEntry (s : Study) (t : Tree) (id : BackendId) (database : String) : RecoveryEntry :=
  ⟨id, database, Series.recoveryTrace s.layout t database id⟩

/-- Reads the results that a figure shows. -/
def read (s : Study) (t : Tree) : Kind → Data
  | .insertOnly => .insertOnly (s.config.insertOnly.databases.keys.map (s.insertOnlySeries t))
  | .sqliteInsert => .sqliteInsert (s.sqliteInsertSeries t)
  | .ycsb => .ycsb (s.config.ycsb.databases.map fun d => s.ycsbSeries t d.database)
  | .rawWrite => .rawWrite (s.config.rawWrite.backends.map (s.rawWriteSizes t))
  | .rawRead => .rawRead (s.config.rawRead.lines.map (s.rawReadSizes t))
  | .recovery =>
      .recovery (s.config.recovery.backends.flatMap fun id =>
        s.config.recovery.databases.map (s.recoveryEntry t id))

def data (s : Study) (t : Tree) (kind : Kind) : Except StyleError Data :=
  match s.registry.lookupAll (s.shown kind) with
  | .error e => .error e
  | .ok _ => .ok (s.read t kind)

theorem data_eq_ok_iff (s : Study) (t : Tree) (kind : Kind) (d : Data) :
    s.data t kind = .ok d ↔
      (∃ entries, s.registry.lookupAll (s.shown kind) = .ok entries) ∧ d = s.read t kind := by
  unfold data
  split
  · next e h => simp [h]
  · next entries h => simp [h, eq_comm]

end Study

end BenchCharts.Figure

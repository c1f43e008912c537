import BenchCharts.Config.Parts
import BenchCharts.Results.Layout

/-!
What figures are drawn from which results, and how they look. There is one section for each kind of
figure, and the configuration that is used without a file has a value for all of them.
-/
namespace BenchCharts.Config

open Canvas (CanvasSize Pen)
open BenchCharts.Geometry (AxisRange)
open Results (RowFormat Workload)
open Series (RecoveryPhase ThreadRange)
open Style (BackendId Entry Hatch Registry StyleError)

/-- The ranges of the two panels of a broken axis. -/
structure PanelRanges where
  lower : AxisRange Float
  upper : AxisRange Float
  deriving Repr, BEq, Inhabited

/-- Latency over throughput while loading. -/
structure InsertOnly where
  backends : List BackendId
  /-- Backends that are left out of the figure. -/
  skipped : List BackendId
  threads : List Nat
  /-- A backend without a range is read for all thread counts. -/
  threadRanges : SortedMap ThreadRange
  /-- The panels of each database; one figure for each of them. -/
  databases : SortedMap PanelRanges
  canvas : CanvasSize
  deriving Repr, BEq, Inhabited

/-- Throughput and latency while loading with one number of threads, side by side. -/
structure SqliteInsert where
  database : String
  backends : List BackendId
  threads : Nat
  /-- Where the bars of the backends stand. -/
  positions : List Float
  xRange : AxisRange Float
  barWidth : Float
  latencyRange : AxisRange Float
  canvas : CanvasSize
  deriving Repr, BEq, Inhabited

/-- A database whose figure labels the bars of a single backend. -/
structure YcsbDatabase where
  database : String
  legendPosition : Nat
  deriving Repr, BEq, DecidableEq, Inhabited

/-- Throughput of workloads. -/
structure Ycsb where
  backends : List BackendId
  workloads : List Workload
  databases : List YcsbDatabase
  barWidth : Float
  canvas : CanvasSize
  deriving Repr, BEq, Inhabited

/-- Latency of raw writes over their size. -/
structure RawWrite where
  backends : List BackendId
  sizeWindow : AxisRange Float
  ranges : PanelRanges
  canvas : CanvasSize
  deriving Repr, BEq, Inhabited

/-- A line that is drawn in the style of one backend from the results of another. -/
structure RawReadLine where
  style : BackendId
  source : BackendId
  format : RowFormat
  deriving Repr, BEq, DecidableEq, Inhabited

/-- Latency of raw reads over their size. -/
structure RawRead where
  lines : List RawReadLine
  sizeWindow : AxisRange Float
  canvas : CanvasSize
  deriving Repr, BEq, Inhabited

/-- Recovery times in phases. -/
structure Recovery where
  backends : List BackendId
  databases : List String
  /-- The phases of the legend with their hatches. -/
  hatches : List (RecoveryPhase × Hatch)
  barWidth : Float
  canvas : CanvasSize
  deriving Repr, BEq, Inhabited

structure Figures where
  /-- Trials from one up to this number are read. -/
  trials : Nat
  pen : Pen
  /-- Replaces the standard looks. -/
  styles : Option (List Entry)
  insertOnly : InsertOnly
  sqliteInsert : SqliteInsert
  ycsb : Ycsb
  rawWrite : RawWrite
  rawRead : RawRead
  recovery : Recovery
  deriving Repr, BEq

private def ids (names : List String) : List BackendId := names.map BackendId.mk

def InsertOnly.standard : InsertOnly where
  backends := ids ["sync", "cephfs", "sync_ncl"]
  skipped := ids ["ext4"]
  threads := [1, 2, 4, 8, 12, 16, 20, 24, 32, 48]
  threadRanges := .ofList [("ncl", ⟨1, 16, by decide⟩), ("cephfs", ⟨1, 16, by decide⟩),
    ("cephfs_sync", ⟨2, 32, by decide⟩), ("ext4", ⟨1, 16, by decide⟩),
    ("sync", ⟨2, 24, by decide⟩), ("sync_ncl", ⟨1, 16, by decide⟩)]
  databases := .ofList [("rocksdb", ⟨⟨1, 100⟩, ⟨4000, 5200⟩⟩), ("redis", ⟨⟨1, 200⟩, ⟨4000, 5200⟩⟩)]
  canvas := ⟨400, 700⟩

def SqliteInsert.standard : SqliteInsert where
  database := "sqlite"
  backends := ids ["sync", "cephfs", "sync_ncl"]
  threads := 1
  positions := [1, 3, 5]
  xRange := ⟨0, 6⟩
  barWidth := 0.8
  latencyRange := ⟨1, 1e4⟩
  canvas := ⟨640, 360⟩

def Ycsb.standard : Ycsb where
  backends := ids ["sync", "cephfs", "sync_ncl"]
  workloads := ["a", "b", "c", "d", "f"].filterMap Workload.parse?
  databases := [⟨"rocksdb", 0⟩, ⟨"redis", 1⟩, ⟨"sqlite", 2⟩]
  barWidth := 0.2
  canvas := ⟨640, 420⟩

def RawWrite.standard : RawWrite where
  backends := ids ["sync", "cephfs", "sync_ncl"]
  sizeWindow := ⟨1e2, 1e4⟩
  ranges := ⟨⟨0, 20⟩, ⟨1800, 2200⟩⟩
  canvas := ⟨640, 560⟩

def RawRead.standard : RawRead where
  lines := [⟨⟨"rd_cephfs"⟩, ⟨"cephfs"⟩, .plain⟩, ⟨⟨"rd_sync_ncl"⟩, ⟨"sync_ncl"⟩, .plain⟩,
    ⟨⟨"rd_ncl"⟩, ⟨"ncl"⟩, .recoveryAccounted⟩, ⟨⟨"rd_cephfs_sync"⟩, ⟨"cephfs_sync"⟩, .plain⟩]
  sizeWindow := ⟨1e2, 1e4⟩
  canvas := ⟨640, 480⟩

def Recovery.standard : Recovery where
  backends := ids ["ncl", "cephfs", "ext4"]
  databases := ["rocksdb", "redis", "sqlite"]
  hatches := [(.getPeer, ⟨"\\\\\\"⟩), (.connect, ⟨"///"⟩), (.rdmaRead, ⟨"xxx"⟩),
    (.syncPeer, ⟨"||"⟩), (.parse, .none)]
  barWidth := 0.2
  canvas := ⟨700, 340⟩

def Figures.standard : Figures where
  trials := 3
  pen := .standard
  styles := none
  insertOnly := .standard
  sqliteInsert := .standard
  ycsb := .standard
  rawWrite := .standard
  rawRead := .standard
  recovery := .standard

/-- The looks of the backends that the figures refer to. -/
def Figures.registry (f : Figures) : Except StyleError Registry :=
  match f.styles with
  | some entries => Registry.ofEntries entries
  | none => .ok .standard

end BenchCharts.Config

import BenchCharts.Config.Figures

/-!
The sections of a configuration as records in documents. A section that is there must be complete;
one that is left out keeps its standard value.
-/
namespace BenchCharts.Config

open Format (Decoded Field Source Value)
open Series (RecoveryPhase)

section
variable {ν : Type} [Source ν]

def panelFields : List (Field ν PanelRanges) :=
  [.of "lower" readRange fun p lower => { p with lower },
    .of "upper" readRange fun p upper => { p with upper }]

def readPanels : ν → Decoded PanelRanges := Format.readRecord panelFields .refuse default

def insertOnlyFields : List (Field ν InsertOnly) :=
  [.of "backends" readBackends fun s backends => { s with backends },
    .of "skipped_backends" readBackends fun s skipped => { s with skipped },
    .of "threads" (Format.readList Format.readHalfWord) fun s threads => { s with threads },
    .of "thread_ranges" (Format.readMap readThreadRange) fun s threadRanges =>
      { s with threadRanges },
    .of "databases" (Format.readMap readPanels) fun s databases => { s with databases },
    .of "canvas" readCanvas fun s canvas => { s with canvas }]

def readInsertOnly : ν → Decoded InsertOnly := Format.readRecord insertOnlyFields .refuse default

def sqliteInsertFields : List (Field ν SqliteInsert) :=
  [.of "database" Source.text fun s database => { s with database },
    .of "backends" readBackends fun s backends => { s with backends },
    .of "threads" Format.readHalfWord fun s threads => { s with threads },
    .of "positions" (Format.readList Source.real) fun s positions => { s with positions },
    .of "x_range" readRange fun s xRange => { s with xRange },
    .of "bar_width" Source.real fun s barWidth => { s with barWidth },
    .of "latency_range" readRange fun s latencyRange => { s with latencyRange },
    .of "canvas" readCanvas fun s canvas => { s with canvas }]

def readSqliteInsert : ν → Decoded SqliteInsert :=
  Format.readRecord sqliteInsertFields .refuse default

def ycsbDatabaseFields : List (Field ν YcsbDatabase) :=
  [.of "database" Source.text fun d database => { d with database },
    .of "legend_position" Format.readWord fun d legendPosition => { d with legendPosition }]

def readYcsbDatabase : ν → Decoded YcsbDatabase :=
  Format.readRecord ycsbDatabaseFields .refuse default

def ycsbFields : List (Field ν Ycsb) :=
  [.of "backends" readBackends fun s backends => { s with backends },
    .of "workloads" (Format.readList readWorkload) fun s workloads => { s with workloads },
    .of "databases" (Format.readList readYcsbDatabase) fun s databases => { s with databases },
    .of "bar_width" Source.real fun s barWidth => { s with barWidth },
    .of "canvas" readCanvas fun s canvas => { s with canvas }]

def readYcsb : ν → Decoded Ycsb := Format.readRecord ycsbFields .refuse default

def rawWriteFields : List (Field ν RawWrite) :=
  [.of "backends" readBackends fun s backends => { s with backends },
    .of "size_window" readRange fun s sizeWindow => { s with sizeWindow },
    .of "ranges" readPanels fun s ranges => { s with ranges },
    .of "canvas" readCanvas fun s canvas => { s with canvas }]

def readRawWrite : ν → Decoded RawWrite := Format.readRecord rawWriteFields .refuse default

def rawReadLineFields : List (Field ν RawReadLine) :=
  [.of "style" readBackend fun l style => { l with style },
    .of "source" readBackend fun l source => { l with source },
    .optional "format" readRowFormat fun l format => { l with format }]

def readRawReadLine : ν → Decoded RawReadLine :=
  Format.readRecord rawReadLineFields .refuse default

def rawReadFields : List (Field ν RawRead) :=
  [.of "series" (Format.readList readRawReadLine) fun s lines => { s with lines },
    .of "size_window" readRange fun s sizeWindow => { s with sizeWindow },
    .of "canvas" readCanvas fun s canvas => { s with canvas }]

def readRawRead : ν → Decoded RawRead := Format.readRecord rawReadFields .refuse default

def recoveryFields : List (Field ν Recovery) :=
  [.of "backends" readBackends fun s backends => { s with backends },
    .of "databases" (Format.readList Source.text) fun s databases => { s with databases },
    .of "phase_hatches" (Format.readList (Format.readPair readPhase readHatch)) fun s hatches =>
      { s with hatches },
    .of "bar_width" Source.real fun s barWidth => { s with barWidth },
    .of "canvas" readCanvas fun s canvas => { s with canvas }]

def readRecovery : ν → Decoded Recovery := Format.readRecord recoveryFields .refuse default

def figuresFields : List (Field ν Figures) :=
  [.optional "trial_count" Format.readHalfWord fun f trials => { f with trials },
    .optional "pen" readPen fun f pen => { f with pen },
    .optional "styles" (Format.readOptional (Format.readList readEntry)) fun f styles =>
      { f with styles },
    .optional "insert_only" readInsertOnly fun f insertOnly => { f with insertOnly },
    .optional "sqlite_insert" readSqliteInsert fun f sqliteInsert => { f with sqliteInsert },
    .optional "ycsb" readYcsb fun f ycsb => { f with ycsb },
    .optional "raw_write" readRawWrite fun f rawWrite => { f with rawWrite },
    .optional "raw_read" readRawRead fun f rawRead => { f with rawRead },
    .optional "recovery" readRecovery fun f recovery => { f with recovery }]

def readFigures : ν → Decoded Figures := Format.readRecord figuresFields .refuse .standard

end

def writePanels (p : PanelRanges) : Value :=
  .record [("lower", writeRange p.lower), ("upper", writeRange p.upper)]

def writeInsertOnly (s : InsertOnly) : Value :=
  .record [("backends", writeBackends s.backends), ("skipped_backends", writeBackends s.skipped),
    ("threads", .ofList .natural s.threads),
    ("thread_ranges", writeMap writeThreadRange s.threadRanges),
    ("databases", writeMap writePanels s.databases), ("canvas", writeCanvas s.canvas)]

def writeSqliteInsert (s : SqliteInsert) : Value :=
  .record [("database", .text s.database), ("backends", writeBackends s.backends),
    ("threads", .natural s.threads), ("positions", .ofList .real s.positions),
    ("x_range", writeRange s.xRange), ("bar_width", .real s.barWidth),
    ("latency_range", writeRange s.latencyRange), ("canvas", writeCanvas s.canvas)]

def writeYcsbDatabase (d : YcsbDatabase) : Value :=
  .record [("database", .text d.database), ("legend_position", .natural d.legendPosition)]

def writeYcsb (s : Ycsb) : Value :=
  .record [("backends", writeBackends s.backends),
    ("workloads", .ofList (fun w => .text w.text) s.workloads),
    ("databases", .ofList writeYcsbDatabase s.databases), ("bar_width", .real s.barWidth),
    ("canvas", writeCanvas s.canvas)]

def writeRawWrite (s : RawWrite) : Value :=
  .record [("backends", writeBackends s.backends), ("size_window", writeRange s.sizeWindow),
    ("ranges", writePanels s.ranges), ("canvas", writeCanvas s.canvas)]

def writeRawReadLine (l : RawReadLine) : Value :=
  .record [("style", writeBackend l.style), ("source", writeBackend l.source),
    ("format", .text l.format.name)]

def writeRawRead (s : RawRead) : Value :=
  .record [("series", .ofList writeRawReadLine s.lines),
    ("size_window", writeRange s.sizeWindow), ("canvas", writeCanvas s.canvas)]

def writeRecovery (s : Recovery) : Value :=
  .record [("backends", writeBackends s.backends), ("databases", .ofList .text s.databases),
    ("phase_hatches", .ofList (fun (phase, hatch) => .list [.text phase.name, .text hatch.text])
      s.hatches),
    ("bar_width", .real s.barWidth), ("canvas", writeCanvas s.canvas)]

def writeFigures (f : Figures) : Value :=
  .record [("trial_count", .natural f.trials), ("pen", writePen f.pen),
    ("styles", .ofOption (.ofList writeEntry) f.styles),
    ("insert_only", writeInsertOnly f.insertOnly),
    ("sqlite_insert", writeSqliteInsert f.sqliteInsert), ("ycsb", writeYcsb f.ycsb),
    ("raw_write", writeRawWrite f.rawWrite), ("raw_read", writeRawRead f.rawRead),
    ("recovery", writeRecovery f.recovery)]

end BenchCharts.Config

import BenchCharts.Config.File
import BenchCharts.Quantity

/-!
The sizes of log files over time. Every tick lists a directory; each file that is listed gets a
series, and a size is recorded if it is known and not zero. A directory that cannot be listed
leaves the record as it is.
-/
namespace BenchCharts.LogSize

open Config (Codec)
open Files (Path Tree)
open Format (Decoded Field Source Value)

/-- Sizes in bytes with the milliseconds at which they were seen. -/
structure LogSeries where
  times : List Nat
  sizes : List Nat
  deriving DecidableEq, Repr, Inhabited

namespace LogSeries

def empty : LogSeries := ⟨[], []⟩

def observe (s : LogSeries) (elapsed size : Nat) : LogSeries :=
  ⟨s.times ++ [elapsed], s.sizes ++ [size]⟩

/-- Megabytes over seconds, as far as there are both. -/
def points (s : LogSeries) : List (Float × Float) :=
  (s.times.zip s.sizes).map fun (time, size) =>
    (wordToFloat time / 1000.0, wordToFloat size / 1024.0 / 1024.0)

theorem observe_lengths (s : LogSeries) (elapsed size : Nat)
    (h : s.times.length = s.sizes.length) :
    (s.observe elapsed size).times.length = (s.observe elapsed size).sizes.length := by
  simp [observe, h]

end LogSeries

/-- The series of each log by its name. -/
structure Record where
  logs : SortedMap LogSeries
  deriving Repr, BEq

/-- The names listed in a directory, each with its size if that could be found out. -/
abbrev Listing := List (String × Option Nat)

namespace Record

def empty : Record := ⟨.empty⟩

def series (r : Record) (name : String) : LogSeries := (r.logs.get? name).getD .empty

def see (r : Record) (elapsed : Nat) (entry : String × Option Nat) : Record :=
  let s := r.series entry.1
  ⟨r.logs.insert entry.1 (match entry.2 with
    | some size => if 0 < size then s.observe elapsed size else s
    | none => s)⟩

/-- One tick, at which the directory may not be listable. -/
def poll (r : Record) (elapsed : Nat) (listing : Option Listing) : Record :=
  (listing.getD []).foldl (fun r entry => r.see elapsed entry) r

def pollTree (r : Record) (t : Tree) (directory : Path) (elapsed : Nat) : Record :=
  r.poll elapsed (t.list directory).toOption

/-- The record of some ticks. -/
def watch (ticks : List (Nat × Option Listing)) : Record :=
  ticks.foldl (fun r (elapsed, listing) => r.poll elapsed listing) empty

theorem watch_nil : watch [] = empty := rfl

end Record

section
variable {ν : Type} [Source ν]

def seriesFields : List (Field ν LogSeries) :=
  [.of "time" (Format.readList Format.readWord) fun s times => { s with times },
    .of "size" (Format.readList Format.readWord) fun s sizes => { s with sizes }]

def readSeries : ν → Decoded LogSeries := Format.readRecord seriesFields .refuse default

def readRecord (node : ν) : Decoded Record := (Format.readMap readSeries node).map Record.mk

end

def writeSeries (s : LogSeries) : Value :=
  .record [("time", .ofList .natural s.times), ("size", .ofList .natural s.sizes)]

def writeRecord (r : Record) : Value := Config.writeMap writeSeries r.logs

def recordCodec : Codec Record := ⟨readRecord, readRecord, writeRecord⟩

/-- Records are saved as YAML whatever their file is called. -/
def Record.save (r : Record) (t : Tree) (path : Path) : Except Config.FileError Tree :=
  recordCodec.saveAs t .yaml path r

def Record.load (t : Tree) (path : Path) : Except Config.FileError Record :=
  recordCodec.loadAs t .yaml path

end BenchCharts.LogSize

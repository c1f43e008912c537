import BenchCharts.Csv
import BenchCharts.Decimal.Numeral
import BenchCharts.Text.Quoted

/-!
The durations of the phases of one recovery, in nanoseconds. A file lists one phase in each row.
Rows of unknown phases are ignored, but a duration that cannot be read makes the whole file
malformed.
-/
namespace BenchCharts.Results

inductive RawPhase
  | getPeer
  | connect
  | recover
  | syncPeers
  | endRecover
  deriving DecidableEq, Repr

namespace RawPhase

def all : List RawPhase := [getPeer, connect, recover, syncPeers, endRecover]

def name : RawPhase → String
  | getPeer => "get_peer"
  | connect => "connect"
  | recover => "recover"
  | syncPeers => "sync_peers"
  | endRecover => "end_recover"

/-- Labels are trimmed, put in lower case, and their blanks turned into underscores. -/
def normalize (label : List Char) : String :=
  String.ofList ((Text.trim label).map fun c => if c.toLower = ' ' then '_' else c.toLower)

def ofLabel? (label : List Char) : Option RawPhase := all.find? fun p => p.name = normalize label

def unknownMessage (label : String) : String :=
  "unknown recovery phase label " ++ Text.quoted label

theorem ofLabel?_name (p : RawPhase) : ofLabel? p.name.toList = some p := by
  cases p <;> decide +kernel

end RawPhase

structure PhaseDeltas where
  getPeer : Option Nat
  connect : Option Nat
  recover : Option Nat
  syncPeers : Option Nat
  endRecover : Option Nat
  deriving DecidableEq, Repr, Inhabited

namespace PhaseDeltas

def empty : PhaseDeltas := ⟨none, none, none, none, none⟩

def get? (d : PhaseDeltas) : RawPhase → Option Nat
  | .getPeer => d.getPeer
  | .connect => d.connect
  | .recover => d.recover
  | .syncPeers => d.syncPeers
  | .endRecover => d.endRecover

/-- A later duration of a phase replaces an earlier one. -/
def set (d : PhaseDeltas) (phase : RawPhase) (duration : Nat) : PhaseDeltas :=
  match phase with
  | .getPeer => { d with getPeer := some duration }
  | .connect => { d with connect := some duration }
  | .recover => { d with recover := some duration }
  | .syncPeers => { d with syncPeers := some duration }
  | .endRecover => { d with endRecover := some duration }

theorem get?_set (d : PhaseDeltas) (phase other : RawPhase) (duration : Nat) :
    (d.set phase duration).get? other = if other = phase then some duration else d.get? other := by
  cases phase <;> cases other <;> rfl

end PhaseDeltas

/-- Why a row has no duration. -/
inductive DurationError
  | missing
  | unreadable (cell : String) (error : Decimal.NumeralError)
  deriving DecidableEq, Repr

def DurationError.message : DurationError → String
  | missing => "missing column 1 (duration_ns)"
  | unreadable cell error =>
      "column 1 (duration_ns): " ++ Text.quoted cell ++ ": " ++ error.message

/-- The first row without a duration, counting rows from one. -/
structure RowError where
  row : Nat
  cause : DurationError
  deriving DecidableEq, Repr

def RowError.message (e : RowError) : String :=
  "line " ++ toString e.row ++ ": " ++ e.cause.message

namespace PhaseDeltas

def readDuration (record : Csv.Record) : Except DurationError Nat :=
  match record[1]? with
  | none => .error .missing
  | some cell =>
      match Decimal.readNatural 10 Decimal.maxWord cell with
      | .ok n => .ok n
      | .error e => .error (.unreadable (String.ofList cell) e)

def addRecords (d : PhaseDeltas) (row : Nat) : List Csv.Record → Except RowError PhaseDeltas
  | [] => .ok d
  | record :: rest =>
      match readDuration record with
      | .error cause => .error ⟨row, cause⟩
      | .ok duration =>
          match record.head?.bind RawPhase.ofLabel? with
          | some phase => addRecords (d.set phase duration) (row + 1) rest
          | none => addRecords d (row + 1) rest

def parse (text : String) : Except RowError PhaseDeltas := addRecords empty 1 (Csv.records text)

end PhaseDeltas

end BenchCharts.Results

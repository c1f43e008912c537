import BenchCharts.Quantity
import BenchCharts.Results.PhaseDeltas

/-!
The timeline of a recovery. Four phases follow one another, so their durations add up; they are
shown together or not at all. The last phase, parsing, stands on its own. Times are in
milliseconds, and a sum of durations stops at the largest number of 64 bits.
-/
namespace BenchCharts.Series

open Results (PhaseDeltas RawPhase)

/-- The phases shown, in the order of the timeline. -/
inductive RecoveryPhase
  | getPeer
  | connect
  | rdmaRead
  | syncPeer
  | parse
  deriving DecidableEq, Repr, Inhabited

namespace RecoveryPhase

def all : List RecoveryPhase := [getPeer, connect, rdmaRead, syncPeer, parse]

def named : List (String × RecoveryPhase) :=
  [("get_peer", getPeer), ("connect", connect), ("rdma_read", rdmaRead),
    ("sync_peer", syncPeer), ("parse", parse)]

def name : RecoveryPhase → String
  | getPeer => "get_peer"
  | connect => "connect"
  | rdmaRead => "rdma_read"
  | syncPeer => "sync_peer"
  | parse => "parse"

def label : RecoveryPhase → String
  | getPeer => "get peer"
  | connect => "connect"
  | rdmaRead => "rdma read"
  | syncPeer => "sync peer"
  | parse => "parse"

theorem lookup_name (p : RecoveryPhase) : named.lookup p.name = some p := by cases p <;> rfl

end RecoveryPhase

/-- The times of the phases, as far as they are known. -/
structure RecoveryTrace (α : Type) where
  getPeer : Option α
  connect : Option α
  rdmaRead : Option α
  syncPeer : Option α
  parse : Option α
  deriving Repr

/-- One rectangle of a stacked bar. -/
structure PhaseSegment (α : Type) where
  phase : RecoveryPhase
  bottom : α
  top : α
  deriving Repr

/-- The phases that follow one another, each with the duration that it adds. -/
def cumulative : List (RecoveryPhase × RawPhase) :=
  [(.getPeer, .getPeer), (.connect, .connect), (.rdmaRead, .recover), (.syncPeer, .syncPeers)]

namespace RecoveryTrace
variable {α : Type}

def empty : RecoveryTrace α := ⟨none, none, none, none, none⟩

def get? (t : RecoveryTrace α) : RecoveryPhase → Option α
  | .getPeer => t.getPeer
  | .connect => t.connect
  | .rdmaRead => t.rdmaRead
  | .syncPeer => t.syncPeer
  | .parse => t.parse

def set (t : RecoveryTrace α) (phase : RecoveryPhase) (time : α) : RecoveryTrace α :=
  match phase with
  | .getPeer => { t with getPeer := some time }
  | .connect => { t with connect := some time }
  | .rdmaRead => { t with rdmaRead := some time }
  | .syncPeer => { t with syncPeer := some time }
  | .parse => { t with parse := some time }

theorem get?_set (t : RecoveryTrace α) (phase other : RecoveryPhase) (time : α) :
    (t.set phase time).get? other = if other = phase then some time else t.get? other := by
  cases phase <;> cases other <;> rfl

/-- The phases that have a time, in the order of the timeline. -/
def toList (t : RecoveryTrace α) : List (RecoveryPhase × α) :=
  RecoveryPhase.all.filterMap fun p => (t.get? p).map fun time => (p, time)

def isEmpty (t : RecoveryTrace α) : Bool := t.toList.isEmpty

/-- Rectangles of some phases from the bottom up, each from where the one before it ends. -/
def stack (t : RecoveryTrace α) (bottom : α) : List RecoveryPhase → List (PhaseSegment α)
  | [] => []
  | phase :: rest =>
      match t.get? phase with
      | some top => ⟨phase, bottom, top⟩ :: t.stack top rest
      | none => t.stack bottom rest

/-- Rectangles in drawing order. Parsing comes first, from zero, so that the others are painted
over it; those go from the top of the timeline down. -/
def segments [Zero α] (t : RecoveryTrace α) : List (PhaseSegment α) :=
  (t.parse.toList.map fun top => ⟨.parse, 0, top⟩) ++
    (t.stack 0 (cumulative.map (·.1))).reverse

end RecoveryTrace

/-- Durations of 64 bits, added up to the largest of them. -/
def addDurations (a b : Nat) : Nat := min (a + b) Decimal.maxWord

section
variable {α : Type} [Quantity α]

def milliseconds (nanoseconds : Nat) : α := (nanoseconds : α) / ((1000000 : Nat) : α)

/-- The times at which phases end after some nanoseconds, if all of their durations are known. -/
def endings (d : PhaseDeltas) (elapsed : Nat) :
    List (RecoveryPhase × RawPhase) → Option (List (RecoveryPhase × α))
  | [] => some []
  | (phase, raw) :: rest => do
      let elapsed := addDurations elapsed (← d.get? raw)
      return (phase, milliseconds elapsed) :: (← endings d elapsed rest)

def RecoveryTrace.ofDeltas (d : PhaseDeltas) : RecoveryTrace α :=
  let times := (endings d 0 cumulative).getD [] ++
    (d.endRecover.map fun duration => (RecoveryPhase.parse, milliseconds duration)).toList
  times.foldl (fun t (phase, time) => t.set phase time) .empty

theorem RecoveryTrace.ofDeltas_empty :
    (RecoveryTrace.ofDeltas PhaseDeltas.empty : RecoveryTrace α) = RecoveryTrace.empty := rfl

end

end BenchCharts.Series

import BenchCharts.Style.Backend
import BenchCharts.Style.Color
import BenchCharts.Style.Hatch
import BenchCharts.Style.LineStyle
import BenchCharts.Style.Marker
import BenchCharts.Text.Quoted

/-!
The looks of backends. An entry says how one backend is labelled and drawn; a registry holds the
entries that a set of figures may refer to, at most one for each backend. Looking up a backend
without an entry is an error that names it.
-/
namespace BenchCharts.Style

structure Entry where
  id : BackendId
  /-- Legend label in line charts. -/
  displayName : String
  /-- Tick label in bar charts. -/
  barLabel : Option String
  /-- Legend label in size sweeps. -/
  sweepLabel : Option String
  color : Color
  marker : Marker
  hatch : Hatch
  lineStyle : LineStyle
  /-- Side 0 is the primary axis; the others are not drawn. -/
  groupSide : Nat
  deriving DecidableEq, Repr, Inhabited

namespace Entry

def tickLabel (e : Entry) : String := e.barLabel.getD e.displayName

def sizeLabel (e : Entry) : String := e.sweepLabel.getD e.displayName

def isPrimary (e : Entry) : Bool := e.groupSide = 0

end Entry

inductive StyleError
  | unknownBackend (id : BackendId)
  | duplicate (id : BackendId)
  deriving DecidableEq, Repr

/-- A backend is shown as a value with its name in quotes. -/
def BackendId.shown (id : BackendId) : String := "BackendId(" ++ Text.quoted id.text ++ ")"

def StyleError.message : StyleError → String
  | unknownBackend id =>
      "configuration error: backend id " ++ id.shown ++ " is not in the style registry"
  | duplicate id => "backend id " ++ id.shown ++ " is defined more than once"

structure Registry where
  entries : List Entry
  deriving Repr

namespace Registry

/-- Entries are taken in order; the first one whose backend is already there is an error. -/
def add (entries : List Entry) (registry : Registry) : Except StyleError Registry :=
  match entries with
  | [] => .ok registry
  | e :: rest =>
      if registry.entries.any fun known => known.id = e.id then .error (.duplicate e.id)
      else add rest ⟨registry.entries ++ [e]⟩

def ofEntries (entries : List Entry) : Except StyleError Registry := add entries ⟨[]⟩

def find? (registry : Registry) (id : BackendId) : Option Entry :=
  registry.entries.find? fun e => e.id = id

def lookup (registry : Registry) (id : BackendId) : Except StyleError Entry :=
  match registry.find? id with
  | some e => .ok e
  | none => .error (.unknownBackend id)

/-- All entries in the order asked for, or the first backend without one. -/
def lookupAll (registry : Registry) (ids : List BackendId) : Except StyleError (List Entry) :=
  ids.mapM registry.lookup

theorem lookup_eq_ok_iff (registry : Registry) (id : BackendId) (e : Entry) :
    registry.lookup id = .ok e ↔ registry.find? id = some e := by
  unfold lookup
  split <;> simp_all

theorem id_of_find? (registry : Registry) (id : BackendId) (e : Entry)
    (h : registry.find? id = some e) : e.id = id := by
  simpa using List.find?_some h

end Registry

private def entry (id displayName : String) (color : Nat) (marker : Marker) (hatch : String)
    (lineStyle : LineStyle) : Entry :=
  { id := ⟨id⟩, displayName, barLabel := none, sweepLabel := none, color := .ofHex color, marker,
    hatch := ⟨hatch⟩, lineStyle, groupSide := 0 }

/-- The looks used when a configuration names none. The raw read figure shows some backends in
another way, under ids of their own. -/
def standardEntries : List Entry :=
  [{ entry "cephfs" "weak-app DFT" 0xff7f0e .circle "//" .dotted with
      barLabel := some "weak-app \n DFT", sweepLabel := some "weak-bench DFS" },
    entry "cephfs_sync" "CephFS Direct I/O" 0x2ca02c .triangleUp "" .dashDot,
    entry "ext4" "ext4" 0xd62728 .square "*" .solid,
    { entry "ncl" "SplitFT" 0x1f77b4 .star "." .dashed with barLabel := some "NCL Weak" },
    { entry "sync" "strong-app DFT" 0x9467bd .triangleDown "\\" .solid with
      barLabel := some "strong-app \n DFT", sweepLabel := some "strong-bench DFS" },
    { entry "sync_ncl" "SplitFT" 0x8c564b .plus "" .dashed with sweepLabel := some "NCL" },
    entry "nclwseq" "NCL w/ Seq" 0xe377c2 .cross "" .solid,
    entry "rd_cephfs" "DFS" 0xff7f0e .circle "" .dotted,
    entry "rd_sync_ncl" "NCL no prefetch" 0x1f77b4 .star "" .longDash,
    entry "rd_ncl" "NCL" 0x8c564b .plus "" .dashed,
    entry "rd_cephfs_sync" "DFS direct IO" 0x2ca02c .triangleUp "" .dashDot]

def Registry.standard : Registry := ⟨standardEntries⟩

theorem standardEntries_ids_nodup : (standardEntries.map (·.id)).Nodup := by decide

end BenchCharts.Style

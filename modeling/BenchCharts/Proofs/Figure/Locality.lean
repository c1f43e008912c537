import BenchCharts.Proofs.Figure.Records
import BenchCharts.Proofs.Figure.Styles

/-!
Values and the records that they are aggregated from. Each value in the data of a figure belongs to
a database and a backend, or to a source of sizes, and is read from records of its owner alone. As
no two records lie at one place, a file that changes has an influence on the values of one owner at
most, and on none if it is no record of the figure.
-/
namespace BenchCharts.Figure

open Files (Location Tree)
open Results (Configuration Request RowFormat Transfer TrialPhase)
open Series (Point PointSeries RecoveryTrace SizeSeries)
open Style (BackendId)

/-- What an aggregated value belongs to. -/
inductive Owner
  | pair (database : String) (backend : BackendId)
  | source (backend : BackendId) (transfer : Transfer)
  deriving DecidableEq, Repr

inductive Aggregate
  | points (points : List (Point Float))
  | sizes (sizes : Option SizeSeries)
  | trace (trace : Option (RecoveryTrace Float))

def Owner.ofRequest : Request → Owner
  | .trial database _ backend _ _ => pair database ⟨backend⟩
  | .size backend transfer => source ⟨backend⟩ transfer
  | .recovery database backend => pair database ⟨backend⟩

def DatabaseSeries.owned (d : DatabaseSeries) : List (Owner × Aggregate) :=
  d.series.map fun p => (.pair d.database p.backend, .points p.points)

/-- A value with its owner and the records that it is aggregated from. -/
structure Item where
  owner : Owner
  requests : List Request
  value : Tree → Aggregate

def Item.owned (i : Item) (t : Tree) : Owner × Aggregate := (i.owner, i.value t)

namespace Study

/-- The aggregated values in the data of a figure with their owners. Reads belong to the source that
they were measured with, not to the backend in whose style they are drawn. -/
def owned (s : Study) : Data → List (Owner × Aggregate)
  | .insertOnly databases => databases.flatMap (·.owned)
  | .sqliteInsert database => database.owned
  | .ycsb databases => databases.flatMap (·.owned)
  | .rawWrite lines => lines.map fun n => (.source n.backend .write, .sizes n.sizes)
  | .rawRead lines =>
      List.zipWith (fun n line => (.source line.source .read, .sizes n.sizes)) lines
        s.config.rawRead.lines
  | .recovery entries => entries.map fun e => (.pair e.database e.backend, .trace e.trace)

def pointsItem (s : Study) (database : String) (phase : TrialPhase)
    (configurations : List Configuration) (id : BackendId) : Item where
  owner := .pair database id
  requests := configurations.flatMap fun configuration =>
    (List.range' 1 s.config.trials).map (.trial database phase id.text configuration)
  value t := .points
    (PointSeries.ofTree s.layout t database phase id configurations s.config.trials).points

def sizesItem (s : Study) (transfer : Transfer) (format : RowFormat) (id : BackendId) : Item where
  owner := .source id transfer
  requests := [.size id.text transfer]
  value t := .sizes (Series.sizeSweep s.layout t id transfer format)

def traceItem (s : Study) (id : BackendId) (database : String) : Item where
  owner := .pair database id
  requests := [.recovery database id.text]
  value t := .trace (Series.recoveryTrace s.layout t database id)

def loadedThreads (s : Study) (id : BackendId) : List Configuration :=
  (Series.selectThreads (s.config.insertOnly.threadRanges.get? id.text)
    s.config.insertOnly.threads).map .threads

/-- The values of a figure in the order of its data. -/
def items (s : Study) : Kind → List Item
  | .insertOnly => s.config.insertOnly.databases.keys.flatMap fun database =>
      s.loaded.map fun id => s.pointsItem database .load (s.loadedThreads id) id
  | .sqliteInsert => s.config.sqliteInsert.backends.map
      (s.pointsItem s.config.sqliteInsert.database .load [.threads s.config.sqliteInsert.threads])
  | .ycsb => s.config.ycsb.databases.flatMap fun d =>
      s.config.ycsb.backends.map
        (s.pointsItem d.database .run (s.config.ycsb.workloads.map .workload))
  | .rawWrite => s.config.rawWrite.backends.map (s.sizesItem .write .plain)
  | .rawRead => s.config.rawRead.lines.map fun line => s.sizesItem .read line.format line.source
  | .recovery => s.config.recovery.backends.flatMap fun id =>
      s.config.recovery.databases.map (s.traceItem id)

/-- The records that a figure is drawn from. -/
def requests (s : Study) (kind : Kind) : List Request := (s.items kind).flatMap (·.requests)

variable {s : Study} {t u : Tree} {kind : Kind} {i : Item} {place : Location}

/-- The data of a figure holds the values of its items. -/
theorem owned_read (s : Study) (t : Tree) (kind : Kind) :
    s.owned (s.read t kind) = (s.items kind).map (·.owned t) := by
  cases kind with
  | insertOnly =>
    simp only [read, owned, items, List.flatMap_map, List.map_flatMap, List.map_map]
    congr 1
    funext database
    exact List.map_map
  | sqliteInsert =>
    simp only [read, owned, items, List.map_map]
    exact List.map_map
  | ycsb =>
    simp only [read, owned, items, List.flatMap_map, List.map_flatMap, List.map_map]
    congr 1
    funext d
    exact List.map_map
  | rawWrite =>
    simp only [read, owned, items, List.map_map]
    rfl
  | rawRead =>
    simp only [read, owned, items, List.map_map]
    rw [List.zipWith_map_left, List.zipWith_self]
    rfl
  | recovery =>
    simp only [read, owned, items, List.map_flatMap, List.map_map]
    rfl

theorem items_cases (hi : i ∈ s.items kind) :
    (∃ database ∈ s.databases, ∃ id ∈ s.backends, ∃ phase configurations,
      i = s.pointsItem database phase configurations id) ∨
    (∃ id ∈ s.backends, ∃ transfer format, i = s.sizesItem transfer format id) ∨
    ∃ database ∈ s.databases, ∃ id ∈ s.backends, i = s.traceItem id database := by
  unfold databases backends
  cases kind with
  | insertOnly =>
    obtain ⟨database, hdatabase, hrest⟩ := List.mem_flatMap.mp hi
    obtain ⟨id, hid, rfl⟩ := List.mem_map.mp hrest
    have hbackend := (List.mem_filter.mp hid).1
    exact Or.inl ⟨database, by simp [hdatabase], id, by simp [hbackend], _, _, rfl⟩
  | sqliteInsert =>
    obtain ⟨id, hid, rfl⟩ := List.mem_map.mp hi
    exact Or.inl ⟨_, by simp, id, by simp [hid], _, _, rfl⟩
  | ycsb =>
    obtain ⟨d, hd, hrest⟩ := List.mem_flatMap.mp hi
    obtain ⟨id, hid, rfl⟩ := List.mem_map.mp hrest
    exact Or.inl ⟨d.database, by simp [List.mem_map_of_mem hd], id, by simp [hid], _, _, rfl⟩
  | rawWrite =>
    obtain ⟨id, hid, rfl⟩ := List.mem_map.mp hi
    exact Or.inr (Or.inl ⟨id, by simp [hid], _, _, rfl⟩)
  | rawRead =>
    obtain ⟨line, hline, rfl⟩ := List.mem_map.mp hi
    have hsource : line.source ∈ s.config.rawRead.lines.map (·.source) :=
      List.mem_map_of_mem hline
    exact Or.inr (Or.inl ⟨line.source, by simp [hsource], _, _, rfl⟩)
  | recovery =>
    obtain ⟨id, hid, hrest⟩ := List.mem_flatMap.mp hi
    obtain ⟨database, hdatabase, rfl⟩ := List.mem_map.mp hrest
    exact Or.inr (Or.inr ⟨database, by simp [hdatabase], id, by simp [hid], rfl⟩)

/-- The records of an item belong to its owner, and have plain names if all names are plain. -/
theorem of_mem_requests (hi : i ∈ s.items kind) {r : Request} (hr : r ∈ i.requests) :
    Owner.ofRequest r = i.owner ∧ (s.Plain → r.Plain) := by
  rcases items_cases hi with ⟨database, hdatabase, id, hid, phase, configurations, rfl⟩ |
    ⟨id, hid, transfer, format, rfl⟩ | ⟨database, hdatabase, id, hid, rfl⟩
  · obtain ⟨configuration, -, hrest⟩ := List.mem_flatMap.mp hr
    obtain ⟨trial, -, rfl⟩ := List.mem_map.mp hrest
    exact ⟨rfl, fun hplain => ⟨hplain.database database hdatabase, hplain.backend id hid⟩⟩
  · obtain rfl := List.mem_singleton.mp hr
    exact ⟨rfl, fun hplain => hplain.backend id hid⟩
  · obtain rfl := List.mem_singleton.mp hr
    exact ⟨rfl, fun hplain => ⟨hplain.database database hdatabase, hplain.backend id hid⟩⟩

/-- An item is read from its records alone. -/
theorem value_eq (hi : i ∈ s.items kind)
    (h : ∀ r ∈ i.requests, ∀ p, s.layout.path r = .ok p →
      ∀ text, t.read p = .ok text ↔ u.read p = .ok text) : i.value t = i.value u := by
  rcases items_cases hi with ⟨database, -, id, -, phase, configurations, rfl⟩ |
    ⟨id, -, transfer, format, rfl⟩ | ⟨database, -, id, -, rfl⟩
  · have hrecords : Series.SameRecords s.layout t u database phase id configurations
        s.config.trials := by
      apply Series.sameRecords_of_read_iff
      intro configuration hconfiguration trial hlow hhigh p hp
      apply h (.trial database phase id.text configuration trial)
      · have hrange : trial ∈ List.range' 1 s.config.trials := by
          rw [List.mem_range'_1]
          omega
        exact List.mem_flatMap.mpr ⟨configuration, hconfiguration, List.mem_map_of_mem hrange⟩
      · rw [Results.Layout.path_trial]
        exact hp
    exact congrArg Aggregate.points (Series.points_ofTree_eq hrecords)
  · have hread := h (.size id.text transfer) (List.mem_singleton_self _) _
      (Results.Layout.path_size s.layout id.text transfer)
    simp only [sizesItem, Series.sizeSweep, Results.readSizeRows,
      Results.Outcome.value?_ofFile_congr hread]
  · have hread := h (.recovery database id.text) (List.mem_singleton_self _) _
      (Results.Layout.path_recovery s.layout database id.text)
    simp only [traceItem, Series.recoveryTrace, Results.readPhaseDeltas,
      Results.Outcome.value?_ofFile_congr hread]

/-- A file is of no importance to an item unless it lies where one of its records is looked for. -/
theorem value_eq_of_sameBut (hplain : s.Plain) (hsame : t.SameBut s.layout.base place u)
    (hi : i ∈ s.items kind) (hplace : ∀ r ∈ i.requests, ¬ s.layout.Locates r place) :
    i.value t = i.value u := by
  apply value_eq hi
  intro r hr p hp text
  obtain ⟨last, hbelow⟩ := Results.Layout.below_of_path ((of_mem_requests hi hr).2 hplain) hp
  exact hsame.read_iff hbelow fun hleads => hplace r hr ⟨p, hp, hleads⟩

theorem value_eq_of_owner_ne (hplain : s.Plain) (hsame : t.SameBut s.layout.base place u)
    (hi : i ∈ s.items kind) {r : Request} (hr : r.Plain) (hplace : s.layout.Locates r place)
    (howner : i.owner ≠ Owner.ofRequest r) : i.value t = i.value u := by
  apply value_eq_of_sameBut hplain hsame hi
  intro r' hr' hplace'
  obtain ⟨howner', hplain'⟩ := of_mem_requests hi hr'
  apply howner
  rw [← howner', hplace'.unique (hplain' hplain) hr hplace]

/-- One record has an influence on the values of its owner only, and other files have none. -/
theorem figures_local (s : Study) (hplain : s.Plain) (kind : Kind) {t u : Tree} {place : Location}
    (hsame : t.SameBut s.layout.base place u) {d : Data} (hd : s.data t kind = .ok d) :
    ∃ e, s.data u kind = .ok e ∧
      (∀ r : Request, r.Plain → s.layout.Locates r place →
        List.Forall₂ (fun x y => x.1 = y.1 ∧ (x.1 ≠ Owner.ofRequest r → x.2 = y.2))
          (s.owned d) (s.owned e)) ∧
      ((∀ r ∈ s.requests kind, ¬ s.layout.Locates r place) → s.owned d = s.owned e) := by
  obtain ⟨hentries, rfl⟩ := (data_eq_ok_iff s t kind d).mp hd
  refine ⟨s.read u kind, (data_eq_ok_iff s u kind _).mpr ⟨hentries, rfl⟩, ?_, ?_⟩
  · intro r hr hplace
    rw [owned_read, owned_read, List.forall₂_map_left_iff, List.forall₂_map_right_iff]
    apply List.forall₂_same.mpr
    intro i hi
    exact ⟨rfl, value_eq_of_owner_ne hplain hsame hi hr hplace⟩
  · intro hplace
    rw [owned_read, owned_read]
    apply List.map_congr_left
    intro i hi
    have hvalue : i.value t = i.value u := by
      apply value_eq_of_sameBut hplain hsame hi
      intro r hr
      exact hplace r (List.mem_flatMap.mpr ⟨i, hi, hr⟩)
    exact congrArg (Prod.mk i.owner) hvalue

/-- The writes of one backend are there in the second tree only. That changes no values of other
backends in their figure, and none in the figure of reads. -/
theorem figures_local_writes :
    let s : Study := ⟨⟨⟨"results"⟩⟩, .standard, .standard, Chart.elements⟩
    let t := Tree.empty.plant ["results", "raw", "sync_write.csv"] (.file (.text "128,10\n"))
    let place := ["results", "raw", "cephfs_write.csv"]
    let u := t.put place (.file (.text "128,1900\nnot,a,row\n"))
    let r := Request.size "cephfs" .write
    s.Plain ∧ t.SameBut s.layout.base place u ∧ r.Plain ∧ s.layout.Locates r place ∧
      (∀ r ∈ s.requests .rawRead, ¬ s.layout.Locates r place) ∧
      (∃ d e, s.data t .rawWrite = .ok d ∧ s.data u .rawWrite = .ok e ∧
        List.Forall₂ (fun x y => x.1 = y.1 ∧ (x.1 ≠ Owner.ofRequest r → x.2 = y.2))
          (s.owned d) (s.owned e)) ∧
      ∃ d e, s.data t .rawRead = .ok d ∧ s.data u .rawRead = .ok e ∧ s.owned d = s.owned e := by
  intro s t place u r
  have hplain : s.Plain := by decide +kernel
  have hsame : t.SameBut s.layout.base place u := .put _ (by decide +kernel)
  have hr : r.Plain := by decide +kernel
  have hplace : s.layout.Locates r place := by decide +kernel
  have hother : ∀ r ∈ s.requests .rawRead, ¬ s.layout.Locates r place := by decide +kernel
  have hwriteStyles : s.Styled .rawWrite := by decide
  have hreadStyles : s.Styled .rawRead := by decide
  obtain ⟨d, hd⟩ : ∃ d, s.data t .rawWrite = .ok d := exists_data_eq_ok_iff.mpr hwriteStyles
  obtain ⟨d', hd'⟩ : ∃ d, s.data t .rawRead = .ok d := exists_data_eq_ok_iff.mpr hreadStyles
  obtain ⟨e, he, hwrites, -⟩ := figures_local s hplain .rawWrite hsame hd
  obtain ⟨e', he', -, hreads⟩ := figures_local s hplain .rawRead hsame hd'
  exact ⟨hplain, hsame, hr, hplace, hother, ⟨d, e, hd, he, hwrites r hr hplace⟩,
    d', e', hd', he', hreads hother⟩

end Study

end BenchCharts.Figure

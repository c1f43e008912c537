import BenchCharts.Figure.Artifact
import BenchCharts.Proofs.Results.Requests
import BenchCharts.Proofs.Series.Exclusion

/-!
The records that figures are drawn from. Below the directory of results they have plain names, as
the files of the figures have, but other extensions, so that none is ever both. Charts depend on
what can be read from the records, and not on why something else could not be.
-/
namespace BenchCharts.Results.Layout

open Files (Path PlainName plainName_extension)

/-- A file that is read for databases and backends with plain names. -/
inductive IsRecord (layout : Layout) : Path → Prop
  | trial {database backend : String} {phase : TrialPhase} {configuration : Configuration}
      {number : Nat} {path : Path} (hdatabase : PlainName database) (hbackend : PlainName backend)
      (hpath : layout.trialPath database phase backend configuration number = .ok path) :
      IsRecord layout path
  | size {backend : String} {transfer : Transfer} (hbackend : PlainName backend) :
      IsRecord layout (layout.sizePath backend transfer)
  | recovery {database backend : String} (hdatabase : PlainName database)
      (hbackend : PlainName backend) : IsRecord layout (layout.recoveryPath database backend)

/-- Records lie below the base, with an extension that is not the one of figures. -/
theorem below_of_isRecord {layout : Layout} {path : Path} (h : layout.IsRecord path) :
    ∃ stem extension, layout.base.Below (stem ++ extension) path ∧
      extension ∈ [".yml", ".csv"] := by
  cases h with
  | @trial database backend phase configuration number path hdatabase hbackend hpath =>
    unfold trialPath at hpath
    cases hname : trialName database phase backend configuration number with
    | error e =>
      rw [hname] at hpath
      contradiction
    | ok name =>
      obtain ⟨stem, hstem, rfl⟩ := trialName_eq hdatabase hbackend hname
      have hphase : PlainName phase.name := by cases phase <;> decide
      have hplain : PlainName (stem ++ ".yml") :=
        plainName_extension hstem (by decide) (by decide)
      rw [hname] at hpath
      refine ⟨stem, ".yml", ?_, by simp⟩
      rw [← Except.ok.inj hpath]
      exact (((Path.Inside.base.join hdatabase).join hphase).join hbackend).below_join hplain
  | @size backend transfer hbackend =>
    have htransfer : '/' ∉ ("_" ++ transfer.name).toList := by cases transfer <;> decide
    refine ⟨backend ++ "_" ++ transfer.name, ".csv", ?_, by simp⟩
    apply (Path.Inside.base.join (by decide)).below_join
    apply plainName_extension _ (by decide) (by decide)
    rw [String.append_assoc, String.toList_append, List.mem_append, not_or]
    exact ⟨hbackend.2.1, htransfer⟩
  | @recovery database backend hdatabase hbackend =>
    refine ⟨backend, ".csv", ?_, by simp⟩
    apply ((Path.Inside.base.join (by decide)).join hdatabase).below_join
    exact plainName_extension hbackend.2.1 (by decide) (by decide)

end BenchCharts.Results.Layout

namespace BenchCharts.Results

/-- A value is what the text of a file is parsed to. -/
theorem Outcome.value?_ofFile_eq_some_iff {ε α : Type} {t : Files.Tree} {path : Files.Path}
    {parse : String → Except ε α} {value : α} :
    (ofFile t path parse).value? = some value ↔
      ∃ text, t.read path = .ok text ∧ parse text = .ok value := by
  unfold ofFile
  split
  · next hread => simp [hread, value?]
  · next hread => simp [hread, value?]
  · next text hread =>
    cases hparse : parse text <;> simp [hread, hparse, value?]

/-- What a file holds depends on its text alone. -/
theorem Outcome.value?_ofFile_congr {ε α : Type} {t u : Files.Tree} {path : Files.Path}
    (h : ∀ text, t.read path = .ok text ↔ u.read path = .ok text) (parse : String → Except ε α) :
    (ofFile t path parse).value? = (ofFile u path parse).value? := by
  apply Option.ext
  intro value
  rw [value?_ofFile_eq_some_iff, value?_ofFile_eq_some_iff]
  simp only [h]

end BenchCharts.Results

namespace BenchCharts.Figure

open Files (PlainName Tree)
open Results (Layout)
open Series (PointSeries)
open Style (BackendId)

/-- The trees hold the same texts where records are. -/
def SameTexts (layout : Layout) (t u : Tree) : Prop :=
  ∀ path, layout.IsRecord path → ∀ text, t.read path = .ok text ↔ u.read path = .ok text

/-- The sweeps of a database without the reports on what was skipped. -/
def DatabaseSeries.unreported (d : DatabaseSeries) : DatabaseSeries :=
  { d with series := d.series.map fun p => { p with report := .empty } }

def Data.unreported : Data → Data
  | .insertOnly databases => .insertOnly (databases.map (·.unreported))
  | .sqliteInsert database => .sqliteInsert database.unreported
  | .ycsb databases => .ycsb (databases.map (·.unreported))
  | d => d

namespace Study

/-- The databases whose names are part of paths. -/
def databases (s : Study) : List String :=
  s.config.insertOnly.databases.keys ++ [s.config.sqliteInsert.database] ++
    s.config.ycsb.databases.map (·.database) ++ s.config.recovery.databases

/-- The backends whose names are part of paths. -/
def backends (s : Study) : List BackendId :=
  s.config.insertOnly.backends ++ s.config.sqliteInsert.backends ++ s.config.ycsb.backends ++
    s.config.rawWrite.backends ++ s.config.rawRead.lines.map (·.source) ++
    s.config.recovery.backends

structure Plain (s : Study) : Prop where
  database : ∀ database ∈ s.databases, PlainName database
  backend : ∀ id ∈ s.backends, PlainName id.text

instance (s : Study) : Decidable s.Plain :=
  decidable_of_iff ((∀ database ∈ s.databases, PlainName database) ∧
    ∀ id ∈ s.backends, PlainName id.text) ⟨fun h => ⟨h.1, h.2⟩, fun h => ⟨h.database, h.backend⟩⟩

variable {s : Study} {t u : Tree} {kind : Kind}

theorem insertOnlyChart_unreported (d : DatabaseSeries) (ranges : Config.PanelRanges) :
    s.insertOnlyChart d.unreported ranges = s.insertOnlyChart d ranges := by
  unfold insertOnlyChart DatabaseSeries.unreported
  rw [List.mapM_map]
  rfl

theorem sqliteInsertChart_unreported (d : DatabaseSeries) :
    s.sqliteInsertChart d.unreported = s.sqliteInsertChart d := by
  unfold sqliteInsertChart DatabaseSeries.unreported
  rw [List.mapM_map]
  rfl

theorem ycsbChart_unreported (d : DatabaseSeries) (database : Config.YcsbDatabase) :
    s.ycsbChart d.unreported database = s.ycsbChart d database := by
  unfold ycsbChart ycsbSeriesBars DatabaseSeries.unreported
  rw [List.zipIdx_map, List.mapM_map]
  rfl

/-- No chart shows the reports on what was skipped. -/
theorem artifacts_unreported (d : Data) : s.artifacts d.unreported = s.artifacts d := by
  cases d with
  | insertOnly databases =>
    change s.insertOnlyCharts (databases.map (·.unreported)) = s.insertOnlyCharts databases
    rw [insertOnlyCharts_map s databases (·.unreported) (·.database) fun _ => rfl, List.mapM_map]
    unfold insertOnlyCharts
    congr 1
    funext ⟨d, ranges⟩
    exact insertOnlyChart_unreported d ranges
  | sqliteInsert database =>
    change (s.sqliteInsertChart database.unreported).map _ = (s.sqliteInsertChart database).map _
    rw [sqliteInsertChart_unreported]
  | ycsb databases =>
    change s.ycsbCharts (databases.map (·.unreported)) = s.ycsbCharts databases
    unfold ycsbCharts
    rw [List.zip_map_left, List.mapM_map]
    congr 1
    funext ⟨d, database⟩
    exact ycsbChart_unreported d database
  | rawWrite lines => rfl
  | rawRead lines => rfl
  | recovery entries => rfl

section
variable (htexts : SameTexts s.layout t u)
include htexts

theorem points_eq {database : String} {backend : BackendId} (hdatabase : PlainName database)
    (hbackend : PlainName backend.text) (phase : Results.TrialPhase)
    (configurations : List Results.Configuration) (trials : Nat) :
    (PointSeries.ofTree s.layout t database phase backend configurations trials).points =
      (PointSeries.ofTree s.layout u database phase backend configurations trials).points := by
  apply Series.points_ofTree_eq
  apply Series.sameRecords_of_read_iff
  intro configuration _ trial _ _ path hpath
  exact htexts path (.trial hdatabase hbackend hpath)

theorem value?_ofFile_eq {ε α : Type} {path : Files.Path} (hpath : s.layout.IsRecord path)
    (parse : String → Except ε α) :
    (Results.Outcome.ofFile t path parse).value? =
      (Results.Outcome.ofFile u path parse).value? :=
  Results.Outcome.value?_ofFile_congr (htexts path hpath) parse

/-- Sweeps of backends with plain names agree but for their reports. -/
theorem unreported_eq {database : String} (hdatabase : PlainName database)
    {backends : List BackendId} (hbackends : ∀ id ∈ backends, PlainName id.text)
    (phase : Results.TrialPhase) (configurations : BackendId → List Results.Configuration)
    (trials : Nat) :
    DatabaseSeries.unreported ⟨database, backends.map fun id =>
        .ofTree s.layout t database phase id (configurations id) trials⟩ =
      DatabaseSeries.unreported ⟨database, backends.map fun id =>
        .ofTree s.layout u database phase id (configurations id) trials⟩ := by
  unfold DatabaseSeries.unreported
  simp only [List.map_map, DatabaseSeries.mk.injEq, true_and]
  apply List.map_congr_left
  intro id hid
  have hpoints := points_eq htexts hdatabase (hbackends id hid) phase (configurations id) trials
  simp only [Function.comp_apply, hpoints]
  rfl

/-- What is drawn depends on the texts of the records only. -/
theorem read_unreported (hplain : s.Plain) (kind : Kind) :
    (s.read t kind).unreported = (s.read u kind).unreported := by
  have hdatabases := hplain.database
  have hbackends := hplain.backend
  unfold databases at hdatabases
  unfold backends at hbackends
  cases kind with
  | insertOnly =>
    simp only [read, Data.unreported, List.map_map, Data.insertOnly.injEq]
    apply List.map_congr_left
    intro database hdatabase
    apply unreported_eq htexts (hdatabases database (by simp [hdatabase]))
    intro id hid
    exact hbackends id (by simp [(List.mem_filter.mp hid).1])
  | sqliteInsert =>
    simp only [read, Data.unreported, Data.sqliteInsert.injEq]
    apply unreported_eq htexts (hdatabases _ (by simp))
    intro id hid
    exact hbackends id (by simp [hid])
  | ycsb =>
    simp only [read, Data.unreported, List.map_map, Data.ycsb.injEq]
    apply List.map_congr_left
    intro d hd
    apply unreported_eq htexts (hdatabases d.database (by simp [List.mem_map_of_mem hd]))
    intro id hid
    exact hbackends id (by simp [hid])
  | rawWrite =>
    simp only [read, Data.unreported, Data.rawWrite.injEq]
    apply List.map_congr_left
    intro id hid
    unfold rawWriteSizes Series.sizeSweep Results.readSizeRows
    rw [value?_ofFile_eq htexts (.size (hbackends id (by simp [hid])))]
  | rawRead =>
    simp only [read, Data.unreported, Data.rawRead.injEq]
    apply List.map_congr_left
    intro line hline
    have hsource : line.source ∈ s.config.rawRead.lines.map (·.source) :=
      List.mem_map_of_mem hline
    unfold rawReadSizes Series.sizeSweep Results.readSizeRows
    rw [value?_ofFile_eq htexts (.size (hbackends line.source (by simp [hsource])))]
  | recovery =>
    simp only [read, Data.unreported, Data.recovery.injEq]
    apply List.flatMap_congr
    intro id hid
    apply List.map_congr_left
    intro database hdatabase
    unfold recoveryEntry Series.recoveryTrace Results.readPhaseDeltas
    rw [value?_ofFile_eq htexts (.recovery (hdatabases database (by simp [hdatabase]))
      (hbackends id (by simp [hid])))]

end

end Study

end BenchCharts.Figure

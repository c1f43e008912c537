import BenchCharts.Figure.Artifact
import BenchCharts.Proofs.SortedMap
import BenchCharts.Proofs.Style.Registry
import BenchCharts.Proofs.Traversal

/-!
Which styles a figure needs, and what of its charts does not depend on the results. If all styles
are there, the charts of a figure can be drawn up from any two trees, and they have the same files
and the same sizes.
-/
namespace BenchCharts.Figure

open Files (Tree)

/-- The same one of some files, with the same size. -/
structure Artifact.Alike (names : List String) (a b : Artifact) : Prop where
  name_mem : a.name ∈ names
  name_eq : a.name = b.name
  size_eq : a.size = b.size

namespace Study

/-- The names of the files of a figure. -/
def fileNames (s : Study) : Kind → List String
  | .insertOnly => s.config.insertOnly.databases.keys.map (· ++ "_lattput.svg")
  | .sqliteInsert => [s.config.sqliteInsert.database ++ "_lattput.svg"]
  | .ycsb => s.config.ycsb.databases.map (·.database ++ "_ycsb.svg")
  | .rawWrite => ["write_lat.svg"]
  | .rawRead => ["read_lat.svg"]
  | .recovery => ["recovery-time.svg"]

/-- All styles of a figure are there. -/
def Styled (s : Study) (kind : Kind) : Prop := ∀ id ∈ s.shown kind, s.registry.Knows id

instance (s : Study) (kind : Kind) : Decidable (s.Styled kind) :=
  inferInstanceAs (Decidable (∀ id ∈ s.shown kind, s.registry.Knows id))

variable {s : Study} {t u : Tree}

/-- All databases have panels, so all have a chart. -/
theorem panels_map_fst (m : SortedMap Config.PanelRanges) :
    (m.keys.filterMap fun database =>
      (m.get? database).map fun ranges => (database, ranges)).map (·.1) = m.keys := by
  rw [List.map_filterMap]
  have hkeys : m.keys.filterMap (fun database =>
      ((m.get? database).map fun ranges => (database, ranges)).map (·.1)) =
        m.keys.filterMap some := by
    apply List.filterMap_congr
    intro database hdatabase
    rw [← SortedMap.isSome_get?_iff, Option.isSome_iff_exists] at hdatabase
    obtain ⟨ranges, hranges⟩ := hdatabase
    rw [hranges]
    rfl
  rw [hkeys, List.filterMap_some]

theorem both_insertOnlyChart (hstyled : s.Styled .insertOnly) {database : String}
    (hdatabase : database ∈ s.config.insertOnly.databases.keys) (ranges : Config.PanelRanges) :
    Both (Artifact.Alike (s.fileNames .insertOnly))
      (s.insertOnlyChart (s.insertOnlySeries t database) ranges)
      (s.insertOnlyChart (s.insertOnlySeries u database) ranges) := by
  unfold insertOnlyChart insertOnlySeries
  apply Both.bind (R := List.Forall₂ fun _ _ => True)
  · apply Both.mapM_map
    intro id hid
    apply Both.bind (Style.Registry.both_lookup (hstyled id hid))
    intro _ _ _
    exact .pure trivial
  · intro _ _ _
    apply Both.pure
    exact ⟨List.mem_map_of_mem hdatabase, rfl, rfl⟩

theorem both_insertOnly (hstyled : s.Styled .insertOnly) :
    Both (List.Forall₂ (Artifact.Alike (s.fileNames .insertOnly)))
      (s.artifacts (s.read t .insertOnly))
      (s.artifacts (s.read u .insertOnly)) := by
  unfold artifacts read
  dsimp only
  rw [insertOnlyCharts_map s _ (s.insertOnlySeries t) id fun _ => rfl,
    insertOnlyCharts_map s _ (s.insertOnlySeries u) id fun _ => rfl]
  apply Both.mapM_map
  rintro ⟨database, ranges⟩ hpanel
  obtain ⟨database', hdatabase, hranges⟩ := List.mem_filterMap.mp hpanel
  obtain ⟨ranges', -, heq⟩ := Option.map_eq_some_iff.mp hranges
  obtain ⟨rfl, rfl⟩ := Prod.mk.inj heq
  exact both_insertOnlyChart hstyled hdatabase ranges'

theorem both_sqliteInsert (hstyled : s.Styled .sqliteInsert) :
    Both (List.Forall₂ (Artifact.Alike (s.fileNames .sqliteInsert)))
      (s.artifacts (s.read t .sqliteInsert))
      (s.artifacts (s.read u .sqliteInsert)) := by
  unfold artifacts read sqliteInsertChart sqliteInsertSeries
  dsimp only
  apply Both.singleton
  apply Both.bind (R := List.Forall₂ fun _ _ => True)
  · apply Both.mapM_map
    intro id hid
    apply Both.bind (Style.Registry.both_lookup (hstyled id hid))
    intro _ _ _
    exact .pure trivial
  · intro _ _ _
    apply Both.pure
    exact ⟨List.mem_singleton_self _, rfl, rfl⟩

theorem both_ycsbSeriesBars (hstyled : s.Styled .ycsb) (database : String) (legendPosition : Nat) :
    Both (List.Forall₂ fun _ _ => True)
      (s.ycsbSeriesBars (s.ycsbSeries t database) legendPosition)
      (s.ycsbSeriesBars (s.ycsbSeries u database) legendPosition) := by
  unfold ycsbSeriesBars ycsbSeries
  dsimp only
  rw [List.zipIdx_map, List.zipIdx_map]
  apply Both.mapM_map
  rintro ⟨id, i⟩ hid
  apply Both.bind (Style.Registry.both_lookup (hstyled id (List.fst_mem_of_mem_zipIdx hid)))
  intro _ _ _
  exact .pure trivial

theorem both_ycsb (hstyled : s.Styled .ycsb) :
    Both (List.Forall₂ (Artifact.Alike (s.fileNames .ycsb)))
      (s.artifacts (s.read t .ycsb))
      (s.artifacts (s.read u .ycsb)) := by
  unfold artifacts read ycsbCharts
  dsimp only
  rw [← List.map_prod_right_eq_zip, ← List.map_prod_right_eq_zip]
  apply Both.mapM_map
  intro d hd
  unfold ycsbChart
  apply Both.bind (both_ycsbSeriesBars hstyled d.database d.legendPosition)
  intro _ _ _
  apply Both.pure
  exact ⟨List.mem_map_of_mem hd, rfl, rfl⟩

/-- Lines of sizes need the styles of their backends only. -/
theorem both_sizeLines (label : Style.Entry → String) {α : Type} {xs : List α}
    (p q : α → NamedSizes) (hbackend : ∀ x ∈ xs, (p x).backend = (q x).backend)
    (hknown : ∀ x ∈ xs, s.registry.Knows (p x).backend) :
    Both (fun _ _ => True) (s.sizeLines label (xs.map p)) (s.sizeLines label (xs.map q)) := by
  unfold sizeLines
  apply Both.bind (R := List.Forall₂ fun _ _ => True)
  · apply Both.mapM_map
    intro x hx
    rw [← hbackend x hx]
    apply Both.bind (Style.Registry.both_lookup (hknown x hx))
    intro _ _ _
    exact .pure trivial
  · intro _ _ _
    exact .pure trivial

theorem both_rawWrite (hstyled : s.Styled .rawWrite) :
    Both (List.Forall₂ (Artifact.Alike (s.fileNames .rawWrite)))
      (s.artifacts (s.read t .rawWrite))
      (s.artifacts (s.read u .rawWrite)) := by
  unfold artifacts read rawWriteChart
  dsimp only
  apply Both.singleton
  apply Both.bind (both_sizeLines _ (s.rawWriteSizes t) (s.rawWriteSizes u)
    (fun _ _ => rfl) hstyled)
  intro _ _ _
  apply Both.pure
  exact ⟨List.mem_singleton_self _, rfl, rfl⟩

theorem both_rawRead (hstyled : s.Styled .rawRead) :
    Both (List.Forall₂ (Artifact.Alike (s.fileNames .rawRead)))
      (s.artifacts (s.read t .rawRead))
      (s.artifacts (s.read u .rawRead)) := by
  have hknown : ∀ line ∈ s.config.rawRead.lines, s.registry.Knows line.style := by
    intro line hline
    exact hstyled line.style (List.mem_map_of_mem hline)
  unfold artifacts read rawReadChart
  dsimp only
  apply Both.singleton
  apply Both.bind (both_sizeLines _ (s.rawReadSizes t) (s.rawReadSizes u)
    (fun _ _ => rfl) hknown)
  intro _ _ _
  apply Both.pure
  exact ⟨List.mem_singleton_self _, rfl, rfl⟩

theorem both_recovery (hstyled : s.Styled .recovery) :
    Both (List.Forall₂ (Artifact.Alike (s.fileNames .recovery)))
      (s.artifacts (s.read t .recovery))
      (s.artifacts (s.read u .recovery)) := by
  unfold artifacts read recoveryChart
  dsimp only
  apply Both.singleton
  apply Both.bind (R := List.Forall₂ fun _ _ => True)
  · apply Both.mapM
    apply List.forall₂_same.mpr
    intro id hid
    apply Both.bind (Style.Registry.both_lookup (hstyled id hid))
    intro _ _ _
    exact .pure trivial
  · intro _ _ _
    apply Both.pure
    exact ⟨List.mem_singleton_self _, rfl, rfl⟩

/-- With all its styles a figure has the same files whatever the results are. -/
theorem both_artifacts {kind : Kind} (hstyled : s.Styled kind) (t u : Tree) :
    Both (List.Forall₂ (Artifact.Alike (s.fileNames kind)))
      (s.artifacts (s.read t kind))
      (s.artifacts (s.read u kind)) := by
  cases kind with
  | insertOnly => exact both_insertOnly hstyled
  | sqliteInsert => exact both_sqliteInsert hstyled
  | ycsb => exact both_ycsb hstyled
  | rawWrite => exact both_rawWrite hstyled
  | rawRead => exact both_rawRead hstyled
  | recovery => exact both_recovery hstyled

end Study

end BenchCharts.Figure

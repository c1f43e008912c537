import BenchCharts.Proofs.Chart.Labels
import BenchCharts.Proofs.Chart.Narrow
import BenchCharts.Proofs.Figure.Independence
import BenchCharts.Proofs.Figure.Limits

/-!
Ways to the results that lead through a directory that is not there. Making the directory of the
figures makes that directory too, and opens the way to records that could not be found before. They
have no line in a figure the first time that it is drawn, and one the second time.
-/
namespace BenchCharts.Figure.Study

open Files (PlainName Tree)

variable {s : Study} {t u : Tree}

/-- The figure of writes without its lines. -/
def rawWriteFrame (s : Study) : Chart.BrokenAxis where
  xDescription := sizeText
  yDescription := latencyText
  xScale := .log
  xRange := some s.config.rawWrite.sizeWindow
  lower := s.config.rawWrite.ranges.lower
  upper := s.config.rawWrite.ranges.upper
  lines := []

/-- The line of a backend in the figure of writes, if it has any sizes. -/
def rawWriteLine (s : Study) (u : Tree) (e : Style.Entry) : Option Chart.StyledLine :=
  ((s.rawWriteSizes u e.id).sizes.filter fun sizes => !sizes.isEmpty).map fun sizes =>
    ⟨e, e.sizeLabel, sizes.points⟩

/-- The one chart of a figure of writes of one backend. -/
def rawWriteArtifact (s : Study) (u : Tree) (e : Style.Entry) : Artifact :=
  ⟨"write_lat.svg", s.config.rawWrite.canvas,
    .broken (s.rawWriteFrame.withLines (s.rawWriteLine u e).toList)⟩

/-- That chart without limits, on a canvas that is split at a height. -/
def rawWriteDocument (s : Study) (u : Tree) (e : Style.Entry) (height : Nat) : String :=
  Chart.document s.config.rawWrite.canvas
    ((s.rawWriteFrame.withLines (s.rawWriteLine u e).toList).elements s.config.rawWrite.canvas
      s.config.pen height).unlimited

theorem mem_fileNames_rawWrite (s : Study) (u : Tree) (e : Style.Entry) :
    (s.rawWriteArtifact u e).name ∈ s.fileNames .rawWrite := List.mem_singleton_self _

theorem parts_of_rawWriteLine {e : Style.Entry} {l : Chart.StyledLine}
    (h : s.rawWriteLine u e = some l) : l.style = e ∧ l.label = e.sizeLabel := by
  unfold rawWriteLine at h
  obtain ⟨sizes, -, rfl⟩ := Option.map_eq_some_iff.mp h
  exact ⟨rfl, rfl⟩

theorem rawWriteLine_eq (htexts : SameTexts s.layout t u) {e : Style.Entry}
    (hid : PlainName e.id.text) : s.rawWriteLine t e = s.rawWriteLine u e := by
  unfold rawWriteLine rawWriteSizes Series.sizeSweep Results.readSizeRows
  rw [value?_ofFile_eq htexts (.size hid)]

/-- A line more is seen from its label. -/
theorem rawWriteDocument_ne {e : Style.Entry} (hprimary : e.isPrimary = true) {height : Nat}
    {letter : Char} (hlabel : 0 < (Canvas.Svg.escape e.sizeLabel).toList.count letter)
    (hlegend : Chart.letters letter (Canvas.Legend.elements
      (s.rawWriteFrame.legendArea s.config.rawWrite.canvas height) [] s.config.pen.fontSize
      true).unlimited = 0)
    (hnone : s.rawWriteLine t e = none) (hsome : (s.rawWriteLine u e).isSome = true) :
    s.rawWriteDocument t e height ≠ s.rawWriteDocument u e height := by
  obtain ⟨l, hl⟩ := Option.isSome_iff_exists.mp hsome
  obtain ⟨hstyle, htext⟩ := parts_of_rawWriteLine hl
  unfold rawWriteDocument
  rw [hnone, hl]
  exact s.rawWriteFrame.document_ne rfl (hstyle ▸ hprimary) (htext ▸ hlabel) hlegend

section
variable {e : Style.Entry} (hbackends : s.config.rawWrite.backends = [e.id])
  (hlookup : s.registry.lookup e.id = .ok e)
include hbackends hlookup

theorem render_rawWrite (u : Tree) :
    s.render u .rawWrite = s.writeAll u [s.rawWriteArtifact u e] := by
  have hstyled : s.Styled .rawWrite := by
    intro id hid
    have hshown : s.shown .rawWrite = [e.id] := hbackends
    rw [hshown, List.mem_singleton] at hid
    subst hid
    exact Style.Registry.exists_lookup_eq_ok_iff.mp ⟨e, hlookup⟩
  have hartifacts : s.artifacts (s.read u .rawWrite) = .ok [s.rawWriteArtifact u e] := by
    unfold rawWriteArtifact artifacts read rawWriteChart sizeLines rawWriteLine
    rw [hbackends]
    have hbackend : (s.rawWriteSizes u e.id).backend = e.id := rfl
    simp only [List.map_cons, List.map_nil, List.mapM_cons, List.mapM_nil, hbackend, hlookup]
    cases (s.rawWriteSizes u e.id).sizes.filter fun sizes => !sizes.isEmpty <;> rfl
  obtain ⟨artifacts, hok, hrender⟩ := render_of_styled hstyled u
  rw [hartifacts] at hok
  rw [hrender, ← Except.ok.inj hok]

variable (hdrawing : s.drawing = Chart.unlimited) (hplain : s.Plain) {height : Nat}
  (hheight : Chart.BrokenAxis.splitHeight s.config.rawWrite.canvas.height = .ok height)
include hdrawing hheight

theorem tree_render_rawWrite (u : Tree) :
    (s.render u .rawWrite).1 = (Chart.writeDocument u (s.layout.figurePath "write_lat.svg")
      (s.rawWriteDocument u e height)).1 := by
  rw [render_rawWrite hbackends hlookup]
  unfold rawWriteArtifact writeAll write
  rw [hdrawing, Chart.unlimited_broken _ hheight]
  dsimp only
  split
  · next t' e' hwritten => exact (congrArg Prod.fst hwritten).symm
  · next t' _ hwritten => exact (congrArg Prod.fst hwritten).symm

include hplain

/-- Drawing the figure makes its directories, and changes nothing else of what is read. -/
theorem rawWriteLine_render
    (hsteady : (t.makeDirectories s.layout.figureDirectory).1.Steady s.layout.base) :
    s.rawWriteLine (s.render t .rawWrite).1 e =
      s.rawWriteLine (t.makeDirectories s.layout.figureDirectory).1 e := by
  obtain ⟨hparent, hbelow, hrecords⟩ := below_outputPath hplain (mem_fileNames_rawWrite s t e)
  have hfollows := Chart.Follows.writeDocument hparent hbelow hrecords
    (t.makeDirectories s.layout.figureDirectory).1 (s.rawWriteDocument t e height)
  rw [Chart.writeDocument_makeDirectories hparent] at hfollows
  have htexts : SameTexts s.layout (t.makeDirectories s.layout.figureDirectory).1
      (s.render t .rawWrite).1 := by
    rw [tree_render_rawWrite hbackends hlookup hdrawing hheight]
    exact hfollows.read_iff hsteady
  have hid : PlainName e.id.text := by
    apply hplain.backend
    unfold backends
    simp [hbackends]
  exact (rawWriteLine_eq htexts hid).symm

variable {place : Files.Location}
  (hmade : (t.makeDirectories s.layout.figureDirectory).2 = .ok ())
  (hlocate : (t.makeDirectories s.layout.figureDirectory).1.locate
    (s.layout.figurePath "write_lat.svg") = .ok place)
  (hfree : (t.makeDirectories s.layout.figureDirectory).1.at? place ≠ some .directory)
include hmade hlocate hfree

/-- The file of the figure, wherever else directories were made. -/
theorem at?_render_rawWrite (hakin : Tree.Akin s.layout.figureDirectory t u) :
    (s.render u .rawWrite).1.at? place =
      some (.file (.text (s.rawWriteDocument u e height))) := by
  obtain ⟨hparent, -, -⟩ := below_outputPath hplain (mem_fileNames_rawWrite s t e)
  rw [tree_render_rawWrite hbackends hlookup hdrawing hheight]
  exact Chart.at?_writeDocument hparent hakin hmade hlocate hfree

/-- A line that is not there at first, but once the directories of the figure are made, is missing
from the figure the first time only. -/
theorem render_rawWrite_again_ne (hprimary : e.isPrimary = true)
    {letter : Char} (hlabel : 0 < (Canvas.Svg.escape e.sizeLabel).toList.count letter)
    (hlegend : Chart.letters letter (Canvas.Legend.elements
      (s.rawWriteFrame.legendArea s.config.rawWrite.canvas height) [] s.config.pen.fontSize
      true).unlimited = 0)
    (hsteady : (t.makeDirectories s.layout.figureDirectory).1.Steady s.layout.base)
    (hnone : s.rawWriteLine t e = none)
    (hsome : (s.rawWriteLine (t.makeDirectories s.layout.figureDirectory).1 e).isSome = true) :
    (s.render (s.render t .rawWrite).1 .rawWrite).1 ≠ (s.render t .rawWrite).1 := by
  rw [← rawWriteLine_render hbackends hlookup hdrawing hplain hheight hsteady] at hsome
  have hakin : Tree.Akin s.layout.figureDirectory t (s.render t .rawWrite).1 :=
    (follows_render hplain t .rawWrite).akin
  have hfirst := at?_render_rawWrite hbackends hlookup hdrawing hplain hheight hmade hlocate hfree
    (.refl _ t)
  have hsecond := at?_render_rawWrite hbackends hlookup hdrawing hplain hheight hmade hlocate hfree
    hakin
  intro heq
  rw [heq, hfirst] at hsecond
  apply rawWriteDocument_ne hprimary hlabel hlegend hnone hsome
  simpa using hsecond

end

/-- Only writes of one backend, to be found beside a directory that is not there. Their figure
leaves no room for its plots and has single values on its axes, so without lines it can be drawn,
whatever place each of the values of the logarithm takes. -/
def detour : Study :=
  ⟨⟨⟨"x/.."⟩⟩, { Config.Figures.standard with
    rawWrite := { Config.RawWrite.standard with
      backends := [⟨"sync"⟩]
      ranges := ⟨⟨0, 0⟩, ⟨0, 0⟩⟩
      canvas := Chart.BrokenAxis.narrow } },
    ⟨Style.Registry.standard.entries.filter fun e => e.id == ⟨"sync"⟩⟩, Chart.elements⟩

def detourTree : Tree :=
  Tree.empty.plant ["raw", "sync_write.csv"] (.file (.text "128,10\n1024,12\n8192,15\n"))

/-- No other figure has all its styles. -/
theorem renderAll_detour (u : Tree) :
    (detour.renderAll u).1 = (detour.render u .rawWrite).1 := by
  have hothers : ∀ kind, kind ≠ .rawWrite → ∃ e, ∀ t rest, detour.renderEach t (kind :: rest) =
      ((detour.renderEach t rest).1, (detour.renderEach t rest).2.map
        fun results => (kind, .error (.style e)) :: results) := by
    intro kind hne
    have hstyled : ¬ detour.Styled kind := by
      cases kind with
      | rawWrite => contradiction
      | insertOnly => decide +kernel
      | sqliteInsert => decide +kernel
      | ycsb => decide +kernel
      | rawRead => decide +kernel
      | recovery => decide +kernel
    obtain ⟨e, he⟩ := render_of_not_styled hstyled
    refine ⟨e, fun t rest => ?_⟩
    rw [renderEach_of_not_breaksOff (by simp [he, BreaksOff]), he]
  obtain ⟨_, hinsertOnly⟩ := hothers .insertOnly (by simp)
  obtain ⟨_, hsqliteInsert⟩ := hothers .sqliteInsert (by simp)
  obtain ⟨_, hycsb⟩ := hothers .ycsb (by simp)
  obtain ⟨_, hrawRead⟩ := hothers .rawRead (by simp)
  obtain ⟨_, hrecovery⟩ := hothers .recovery (by simp)
  have hrest (t : Tree) : (detour.renderEach t [.rawRead, .recovery]).1 = t := by
    rw [hrawRead, hrecovery]
    rfl
  show (detour.renderEach u [.insertOnly, .sqliteInsert, .ycsb, .rawWrite, .rawRead,
    .recovery]).1 = _
  rw [hinsertOnly, hsqliteInsert, hycsb]
  by_cases hbreaks : BreaksOff (detour.render u .rawWrite).2
  · obtain ⟨e, he⟩ := hbreaks
    rw [renderEach_of_breaksOff he]
  · rw [renderEach_of_not_breaksOff hbreaks]
    exact hrest _

theorem exists_entry_detour : ∃ e : Style.Entry, e.id = ⟨"sync"⟩ ∧
    detour.config.rawWrite.backends = [e.id] ∧ detour.registry.lookup e.id = .ok e ∧
    e.isPrimary = true ∧ 0 < (Canvas.Svg.escape e.sizeLabel).toList.count 'D' := by
  have hentry : (detour.registry.find? ⟨"sync"⟩).any (fun e => e.isPrimary &&
      decide (0 < (Canvas.Svg.escape e.sizeLabel).toList.count 'D')) = true := by
    decide +kernel
  cases hfind : detour.registry.find? ⟨"sync"⟩ with
  | none => simp [hfind] at hentry
  | some e =>
    have hid := Style.Registry.id_of_find? _ _ _ hfind
    have hlookup := (Style.Registry.lookup_eq_ok_iff _ _ _).mpr hfind
    rw [hfind] at hentry
    simp only [Option.any_some, Bool.and_eq_true, decide_eq_true_eq] at hentry
    exact ⟨e, hid, hid ▸ rfl, hid ▸ hlookup, hentry⟩

theorem rawWriteLine_detourTree {e : Style.Entry} (hid : e.id = ⟨"sync"⟩) :
    detour.rawWriteLine detourTree e = none := by
  unfold rawWriteLine
  rw [hid, Option.map_eq_none_iff, ← Option.isNone_iff_eq_none]
  decide +kernel

/-- Without a line the writes can be drawn. -/
theorem not_breaksOff_detour : ¬ BreaksOff (detour.render detourTree .rawWrite).2 := by
  obtain ⟨e, hid, hbackends, hlookup, -⟩ := exists_entry_detour
  have hsingle : ((0 : Float) == 0) = true := by decide +kernel
  have hheight : Chart.BrokenAxis.splitHeight Chart.BrokenAxis.narrow.height = .ok 17 := by
    decide +kernel
  obtain ⟨drawn, hdrawn⟩ := Chart.BrokenAxis.inRange_narrow
    (c := detour.rawWriteFrame.withLines []) rfl hsingle hsingle detour.config.pen
  have hdrawable : detour.Drawable (detour.rawWriteArtifact detourTree e) := by
    refine ⟨drawn, ?_⟩
    unfold rawWriteArtifact
    rw [rawWriteLine_detourTree hid]
    exact Chart.elements_broken hheight hdrawn
  rw [render_rawWrite hbackends hlookup]
  exact not_breaksOff_writeAll_singleton hdrawable detourTree

/-- Drawing a figure makes the missing directory, beside which the writes are found then. So the
second time they have a line in their figure, or it cannot be drawn any more. -/
theorem renderAll_detour_ne :
    detour.drawing = Chart.elements ∧ detour.Plain ∧
      ¬ BreaksOff (detour.render detourTree .rawWrite).2 ∧
      ¬ ((detour.render (detour.after detourTree [.rawWrite]) .rawWrite).2 =
          (detour.render detourTree .rawWrite).2 ∧
        (detour.renderAll (detour.renderAll detourTree).1).1 =
          (detour.renderAll detourTree).1) := by
  have hplain : detour.Plain := by decide +kernel
  have hfirst := not_breaksOff_detour
  refine ⟨rfl, hplain, hfirst, ?_⟩
  rintro ⟨hresult, htree⟩
  -- Both times the figure is the one without limits then.
  have hsecond :
      ¬ BreaksOff (detour.render (detour.render detourTree .rawWrite).1 .rawWrite).2 := by
    change ¬ BreaksOff (detour.render (detour.after detourTree [.rawWrite]) .rawWrite).2
    rwa [hresult]
  rw [renderAll_detour, renderAll_detour, ← render_unlimited rfl hsecond,
    ← render_unlimited rfl hfirst] at htree
  obtain ⟨e, hid, hbackends, hlookup, hprimary, hlabel⟩ := exists_entry_detour
  have hheight : Chart.BrokenAxis.splitHeight detour.config.rawWrite.canvas.height =
      .ok 17 := by decide +kernel
  have hlegend : Chart.letters 'D' (Canvas.Legend.elements
      (detour.rawWriteFrame.legendArea detour.config.rawWrite.canvas 17) []
      detour.config.pen.fontSize true).unlimited = 0 := by decide +kernel
  have hmade : (detourTree.makeDirectories detour.layout.figureDirectory).2 = .ok () := by
    decide +kernel
  have hlocate : (detourTree.makeDirectories detour.layout.figureDirectory).1.locate
      (detour.layout.figurePath "write_lat.svg") = .ok ["fig", "write_lat.svg"] := by
    decide +kernel
  have hfree : (detourTree.makeDirectories detour.layout.figureDirectory).1.at?
      ["fig", "write_lat.svg"] ≠ some .directory := by decide +kernel
  have hsteady : (detourTree.makeDirectories detour.layout.figureDirectory).1.Steady
      detour.layout.base := Or.inr ⟨[], by decide +kernel⟩
  have hsome : (detour.rawWriteLine
      (detourTree.makeDirectories detour.layout.figureDirectory).1 e).isSome = true := by
    unfold rawWriteLine
    rw [hid, Option.isSome_map]
    decide +kernel
  have hplain' : detour.unlimited.Plain := ⟨hplain.database, hplain.backend⟩
  exact render_rawWrite_again_ne (s := detour.unlimited) hbackends hlookup rfl hplain' hheight hmade
    hlocate hfree hprimary hlabel hlegend hsteady (rawWriteLine_detourTree hid) hsome htree

end BenchCharts.Figure.Study

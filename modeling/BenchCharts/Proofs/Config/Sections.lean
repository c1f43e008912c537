import BenchCharts.Config.Sections
import BenchCharts.Proofs.Format.Rendering
import BenchCharts.Proofs.Style.Color

/-!
Configurations that are written are read back as they were, section by section. What is asked of
them is that every number fits its type, that maps are in order, and that doubles are finite and
keep their texts.
-/
namespace BenchCharts

def Canvas.CanvasSize.Fits (c : CanvasSize) : Prop :=
  c.width ≤ Decimal.maxHalfWord ∧ c.height ≤ Decimal.maxHalfWord

instance (c : Canvas.CanvasSize) : Decidable c.Fits := inferInstanceAs (Decidable (_ ∧ _))

def Canvas.Pen.Fits (p : Pen) : Prop :=
  p.lineWidth ≤ Decimal.maxHalfWord ∧ p.markerSize ≤ Decimal.maxHalfWord ∧
    p.fontSize ≤ Decimal.maxHalfWord

instance (p : Canvas.Pen) : Decidable p.Fits := inferInstanceAs (Decidable (_ ∧ _ ∧ _))

def Style.Entry.Fits (e : Entry) : Prop := e.color.IsBytes ∧ e.groupSide ≤ 255

instance (e : Style.Entry) : Decidable e.Fits := inferInstanceAs (Decidable (_ ∧ _))

def Geometry.AxisRange.reals (r : AxisRange Float) : List Float := [r.min, r.max]

namespace Config

open Canvas (CanvasSize Pen)
open Format (Rendering Source Value)
open BenchCharts.Geometry (AxisRange)
open Series (ThreadRange)
open Style (BackendId Entry)

def PanelRanges.reals (p : PanelRanges) : List Float := p.lower.reals ++ p.upper.reals

structure InsertOnly.Fits (s : InsertOnly) : Prop where
  threads : ∀ n ∈ s.threads, n ≤ Decimal.maxHalfWord
  threadRanges : s.threadRanges.Ascending
  threadBounds : ∀ entry ∈ s.threadRanges.entries, entry.2.max ≤ Decimal.maxHalfWord
  databases : s.databases.Ascending
  canvas : s.canvas.Fits

def InsertOnly.reals (s : InsertOnly) : List Float := s.databases.entries.flatMap (·.2.reals)

structure SqliteInsert.Fits (s : SqliteInsert) : Prop where
  threads : s.threads ≤ Decimal.maxHalfWord
  canvas : s.canvas.Fits

def SqliteInsert.reals (s : SqliteInsert) : List Float :=
  s.positions ++ s.xRange.reals ++ [s.barWidth] ++ s.latencyRange.reals

structure Ycsb.Fits (s : Ycsb) : Prop where
  positions : ∀ d ∈ s.databases, d.legendPosition ≤ Decimal.maxWord
  canvas : s.canvas.Fits

def Ycsb.reals (s : Ycsb) : List Float := [s.barWidth]

def RawWrite.reals (s : RawWrite) : List Float := s.sizeWindow.reals ++ s.ranges.reals

def RawRead.reals (s : RawRead) : List Float := s.sizeWindow.reals

def Recovery.reals (s : Recovery) : List Float := [s.barWidth]

/-- Every number fits the type in which it is kept, and every map is in order. -/
structure Figures.Fits (f : Figures) : Prop where
  trials : f.trials ≤ Decimal.maxHalfWord
  pen : f.pen.Fits
  styles : ∀ entries ∈ f.styles, ∀ e ∈ entries, e.Fits
  insertOnly : f.insertOnly.Fits
  sqliteInsert : f.sqliteInsert.Fits
  ycsb : f.ycsb.Fits
  rawWrite : f.rawWrite.canvas.Fits
  rawRead : f.rawRead.canvas.Fits
  recovery : f.recovery.canvas.Fits

theorem Figures.fits_standard : Figures.standard.Fits where
  trials := by decide
  pen := by decide
  styles := by decide
  insertOnly := ⟨by decide, by decide +kernel, by decide +kernel, by decide +kernel, by decide⟩
  sqliteInsert := ⟨by decide, by decide⟩
  ycsb := ⟨by decide, by decide⟩
  rawWrite := by decide
  rawRead := by decide
  recovery := by decide

/-- All doubles of a configuration. -/
def Figures.reals (f : Figures) : List Float :=
  f.insertOnly.reals ++ f.sqliteInsert.reals ++ f.ycsb.reals ++ f.rawWrite.reals ++
    f.rawRead.reals ++ f.recovery.reals

section
variable {ν : Type} [Source ν] {R : Rendering ν}

theorem reads_backend (id : BackendId) : R.Reads readBackend (writeBackend id) id :=
  (Rendering.reads_text id.text).map BackendId.mk

theorem reads_backends (ids : List BackendId) : R.Reads readBackends (writeBackends ids) ids :=
  Rendering.reads_list fun id _ => reads_backend id

/-- The doubles are read back. -/
def KeepsAll (R : Rendering ν) (xs : List Float) : Prop :=
  ∀ x ∈ xs, x.isFinite = true ∧ R.form.Keeps x

theorem KeepsAll.left {xs ys : List Float} (h : KeepsAll R (xs ++ ys)) : KeepsAll R xs :=
  fun x hx => h x (List.mem_append_left ys hx)

theorem KeepsAll.right {xs ys : List Float} (h : KeepsAll R (xs ++ ys)) : KeepsAll R ys :=
  fun x hx => h x (List.mem_append_right xs hx)

theorem KeepsAll.reads {xs : List Float} (h : KeepsAll R xs) {x : Float} (hx : x ∈ xs) :
    R.Reads Source.real (.real x) x := Rendering.reads_real (h x hx).1 (h x hx).2

theorem reads_range {r : AxisRange Float} (h : KeepsAll R r.reals) :
    R.Reads readRange (writeRange r) r :=
  Rendering.reads_record (by simp [rangeFields])
    (.of (h.reads (by simp [AxisRange.reals])) (.of (h.reads (by simp [AxisRange.reals])) .nil))

theorem reads_panels {p : PanelRanges} (h : KeepsAll R p.reals) :
    R.Reads readPanels (writePanels p) p :=
  Rendering.reads_record (by simp [panelFields])
    (.of (reads_range h.left) (.of (reads_range h.right) .nil))

variable (hlargest : Decimal.maxHalfWord ≤ R.largest)
include hlargest

theorem reads_halfWord {n : Nat} (h : n ≤ Decimal.maxHalfWord) :
    R.Reads Format.readHalfWord (.natural n) n :=
  Rendering.reads_natural h (.inl (Nat.le_refl _)) (Nat.le_trans h hlargest)

theorem reads_threadRange {r : ThreadRange} (h : r.max ≤ Decimal.maxHalfWord) :
    R.Reads readThreadRange (writeThreadRange r) r := by
  have hmin : r.min ≤ Decimal.maxHalfWord := Nat.le_trans r.min_le_max h
  have hfields : R.Reads (Format.readRecord threadRangeFields .refuse default)
      (writeThreadRange r) (r.min, r.max) :=
    Rendering.reads_record (by simp [threadRangeFields])
      (.of (reads_halfWord hlargest hmin) (.of (reads_halfWord hlargest h) .nil))
  have hmake : ThreadRange.make r.min r.max = .ok r :=
    (ThreadRange.make_eq_ok_iff r.min r.max r).mpr ⟨rfl, rfl⟩
  unfold Rendering.Reads at hfields ⊢
  unfold readThreadRange
  rw [hfields]
  simp only [bind, Except.bind, hmake]
  rfl

theorem reads_canvas {c : CanvasSize} (h : c.Fits) : R.Reads readCanvas (writeCanvas c) c :=
  Rendering.reads_record (by simp [canvasFields])
    (.of (reads_halfWord hlargest h.1) (.of (reads_halfWord hlargest h.2) .nil))

theorem reads_pen {p : Pen} (h : p.Fits) : R.Reads readPen (writePen p) p :=
  Rendering.reads_record (by simp [penFields])
    (.of (reads_halfWord hlargest h.1) (.of (reads_halfWord hlargest h.2.1)
      (.of (reads_halfWord hlargest h.2.2) .nil)))

theorem reads_entry {e : Entry} (h : e.Fits) : R.Reads readEntry (writeEntry e) e := by
  have htexts (o : Option String) :
      R.Reads (Format.readOptional Source.text) (.ofOption .text o) o :=
    Rendering.reads_optional (fun s _ => R.isNull_text s) fun s _ => Rendering.reads_text s
  have hside : R.Reads (Source.natural 255) (.natural e.groupSide) e.groupSide :=
    Rendering.reads_natural h.2 (.inl (by decide))
      (Nat.le_trans h.2 (Nat.le_trans (by decide) hlargest))
  exact Rendering.reads_record (by simp [entryFields])
    (.of (reads_backend e.id) (.of (Rendering.reads_text e.displayName)
      (.optional (htexts e.barLabel) (.optional (htexts e.sweepLabel)
        (.of (Rendering.reads_meaning _ (Style.Color.parse?_text e.color h.1))
          (.of (Rendering.reads_choice e.marker.lookup_name)
            (.optional ((Rendering.reads_text e.hatch.text).map Style.Hatch.mk)
              (.of (Rendering.reads_choice e.lineStyle.lookup_name)
                (.optional hside .nil)))))))))

theorem reads_insertOnly {s : InsertOnly} (h : s.Fits) (hreals : KeepsAll R s.reals) :
    R.Reads readInsertOnly (writeInsertOnly s) s := by
  have hpanels : ∀ entry ∈ s.databases.entries, R.Reads readPanels (writePanels entry.2) entry.2 :=
    fun entry hentry =>
      reads_panels fun x hx => hreals x (List.mem_flatMap.mpr ⟨entry, hentry, hx⟩)
  exact Rendering.reads_record (by simp [insertOnlyFields])
    (.of (reads_backends s.backends) (.of (reads_backends s.skipped)
      (.of (Rendering.reads_list fun n hn => reads_halfWord hlargest (h.threads n hn))
        (.of (Rendering.reads_map h.threadRanges fun entry hentry =>
            reads_threadRange hlargest (h.threadBounds entry hentry))
          (.of (Rendering.reads_map h.databases hpanels)
            (.of (reads_canvas hlargest h.canvas) .nil))))))

theorem reads_sqliteInsert {s : SqliteInsert} (h : s.Fits) (hreals : KeepsAll R s.reals) :
    R.Reads readSqliteInsert (writeSqliteInsert s) s :=
  Rendering.reads_record (by simp [sqliteInsertFields])
    (.of (Rendering.reads_text s.database) (.of (reads_backends s.backends)
      (.of (reads_halfWord hlargest h.threads)
        (.of (Rendering.reads_list fun x hx => hreals.left.left.left.reads hx)
          (.of (reads_range hreals.left.left.right)
            (.of (hreals.left.right.reads (by simp))
              (.of (reads_range hreals.right) (.of (reads_canvas hlargest h.canvas) .nil))))))))

theorem reads_ycsb {s : Ycsb} (h : s.Fits)
    (hpositions : ∀ d ∈ s.databases, d.legendPosition ≤ R.largest) (hreals : KeepsAll R s.reals) :
    R.Reads readYcsb (writeYcsb s) s := by
  have hdatabase : ∀ d ∈ s.databases, R.Reads readYcsbDatabase (writeYcsbDatabase d) d :=
    fun d hd => Rendering.reads_record (by simp [ycsbDatabaseFields])
      (.of (Rendering.reads_text d.database)
        (.of (Rendering.reads_natural (h.positions d hd) (.inr rfl) (hpositions d hd)) .nil))
  exact Rendering.reads_record (by simp [ycsbFields])
    (.of (reads_backends s.backends)
      (.of (Rendering.reads_list fun w _ => Rendering.reads_meaning _ w.parse?_text)
        (.of (Rendering.reads_list hdatabase)
          (.of (hreals.reads (by simp [Ycsb.reals]))
            (.of (reads_canvas hlargest h.canvas) .nil)))))

theorem reads_rawWrite {s : RawWrite} (h : s.canvas.Fits) (hreals : KeepsAll R s.reals) :
    R.Reads readRawWrite (writeRawWrite s) s :=
  Rendering.reads_record (by simp [rawWriteFields])
    (.of (reads_backends s.backends) (.of (reads_range hreals.left)
      (.of (reads_panels hreals.right) (.of (reads_canvas hlargest h) .nil))))

theorem reads_rawRead {s : RawRead} (h : s.canvas.Fits) (hreals : KeepsAll R s.reals) :
    R.Reads readRawRead (writeRawRead s) s := by
  have hline (l : RawReadLine) : R.Reads readRawReadLine (writeRawReadLine l) l :=
    Rendering.reads_record (by simp [rawReadLineFields])
      (.of (reads_backend l.style) (.of (reads_backend l.source)
        (.optional (Rendering.reads_choice l.format.lookup_name) .nil)))
  exact Rendering.reads_record (by simp [rawReadFields])
    (.of (Rendering.reads_list fun l _ => hline l)
      (.of (reads_range hreals) (.of (reads_canvas hlargest h) .nil)))

theorem reads_recovery {s : Recovery} (h : s.canvas.Fits) (hreals : KeepsAll R s.reals) :
    R.Reads readRecovery (writeRecovery s) s :=
  Rendering.reads_record (by simp [recoveryFields])
    (.of (reads_backends s.backends)
      (.of (Rendering.reads_list fun name _ => Rendering.reads_text name)
        (.of (Rendering.reads_list fun (phase, hatch) _ =>
            Rendering.reads_pair (Rendering.reads_choice phase.lookup_name)
              ((Rendering.reads_text hatch.text).map Style.Hatch.mk))
          (.of (hreals.reads (by simp [Recovery.reals]))
            (.of (reads_canvas hlargest h) .nil)))))

theorem reads_figures {f : Figures} (h : f.Fits)
    (hpositions : ∀ d ∈ f.ycsb.databases, d.legendPosition ≤ R.largest)
    (hreals : KeepsAll R f.reals) : R.Reads readFigures (writeFigures f) f := by
  have hstyles : R.Reads (Format.readOptional (Format.readList readEntry))
      (.ofOption (.ofList writeEntry) f.styles) f.styles :=
    Rendering.reads_optional (fun entries _ => R.isNull_list _) fun entries hentries =>
      Rendering.reads_list fun e he => reads_entry hlargest (h.styles entries hentries e he)
  exact Rendering.reads_record (by simp [figuresFields])
    (.optional (reads_halfWord hlargest h.trials) (.optional (reads_pen hlargest h.pen)
      (.optional hstyles
        (.optional (reads_insertOnly hlargest h.insertOnly hreals.left.left.left.left.left)
          (.optional (reads_sqliteInsert hlargest h.sqliteInsert hreals.left.left.left.left.right)
            (.optional (reads_ycsb hlargest h.ycsb hpositions hreals.left.left.left.right)
              (.optional (reads_rawWrite hlargest h.rawWrite hreals.left.left.right)
                (.optional (reads_rawRead hlargest h.rawRead hreals.left.right)
                  (.optional (reads_recovery hlargest h.recovery hreals.right) .nil)))))))))

end

end Config

end BenchCharts

import BenchCharts.Proofs.Config.RoundTrip
import BenchCharts.Proofs.Decimal.RoundTrip
import BenchCharts.Proofs.Format.Faults

/-!
What a configuration may leave out, and what it may not contain. Whole sections can be left out and
then have their standard values. A record of a configuration has no other members than its fields,
at any depth, and a section that is there has all fields that have no standard value of their own.
-/
namespace BenchCharts.Config

open Canvas (CanvasSize Pen)
open Format (Fault Rendering Shape Shaped Source Value)
open Format.Shape (defaulted required)
open BenchCharts.Geometry (AxisRange)
open Series (ThreadRange)
open Style (BackendId Entry)

/-! ## The records of a configuration -/

def rangeShape : Shape := .record [required "min" .scalar, required "max" .scalar]

def canvasShape : Shape := .record [required "width" .scalar, required "height" .scalar]

def penShape : Shape :=
  .record [required "line_width" .scalar, required "marker_size" .scalar,
    required "font_size" .scalar]

def entryShape : Shape :=
  .record [required "id" .scalar, required "display_name" .scalar, defaulted "bar_label" .scalar,
    defaulted "sweep_label" .scalar, required "color" .scalar, required "marker" .scalar,
    defaulted "hatch" .scalar, required "linestyle" .scalar, defaulted "group_side" .scalar]

def panelShape : Shape := .record [required "lower" rangeShape, required "upper" rangeShape]

def insertOnlyShape : Shape :=
  .record [required "backends" (.list .scalar), required "skipped_backends" (.list .scalar),
    required "threads" (.list .scalar), required "thread_ranges" (.map .bounds),
    required "databases" (.map panelShape), required "canvas" canvasShape]

def sqliteInsertShape : Shape :=
  .record [required "database" .scalar, required "backends" (.list .scalar),
    required "threads" .scalar, required "positions" (.list .scalar),
    required "x_range" rangeShape, required "bar_width" .scalar,
    required "latency_range" rangeShape, required "canvas" canvasShape]

def ycsbDatabaseShape : Shape :=
  .record [required "database" .scalar, required "legend_position" .scalar]

def ycsbShape : Shape :=
  .record [required "backends" (.list .scalar), required "workloads" (.list .scalar),
    required "databases" (.list ycsbDatabaseShape), required "bar_width" .scalar,
    required "canvas" canvasShape]

def rawWriteShape : Shape :=
  .record [required "backends" (.list .scalar), required "size_window" rangeShape,
    required "ranges" panelShape, required "canvas" canvasShape]

def rawReadLineShape : Shape :=
  .record [required "style" .scalar, required "source" .scalar, defaulted "format" .scalar]

def rawReadShape : Shape :=
  .record [required "series" (.list rawReadLineShape), required "size_window" rangeShape,
    required "canvas" canvasShape]

def recoveryShape : Shape :=
  .record [required "backends" (.list .scalar), required "databases" (.list .scalar),
    required "phase_hatches" (.list (.list .scalar)), required "bar_width" .scalar,
    required "canvas" canvasShape]

/-- The sections, each of which may be left out. -/
def figuresShape : Shape :=
  .record [defaulted "trial_count" .scalar, defaulted "pen" penShape,
    defaulted "styles" (.listOrNull entryShape), defaulted "insert_only" insertOnlyShape,
    defaulted "sqlite_insert" sqliteInsertShape, defaulted "ycsb" ycsbShape,
    defaulted "raw_write" rawWriteShape, defaulted "raw_read" rawReadShape,
    defaulted "recovery" recoveryShape]

/-! ## Configurations that are written have these records -/

theorem shaped_ofList {α : Type} {write : α → Value} {item : Shape} (items : List α)
    (h : ∀ a, Shaped item (write a)) : Shaped (.list item) (.ofList write items) := by
  refine .list fun v hv => ?_
  obtain ⟨a, -, rfl⟩ := List.mem_map.mp hv
  exact h a

theorem shaped_writeMap {α : Type} {write : α → Value} {entry : Shape} (m : SortedMap α)
    (h : ∀ a, Shaped entry (write a)) : Shaped (.map entry) (writeMap write m) := by
  refine .map fun member hmember => ?_
  obtain ⟨⟨name, a⟩, -, rfl⟩ := List.mem_map.mp hmember
  exact h a

theorem shaped_optionalText (o : Option String) : Shaped .scalar (.ofOption .text o) := by
  cases o with
  | none => exact .null
  | some s => exact .text s

theorem shaped_writeBackends (ids : List BackendId) : Shaped (.list .scalar) (writeBackends ids) :=
  shaped_ofList ids fun id => .text id.text

theorem shaped_writeRange (r : AxisRange Float) : Shaped rangeShape (writeRange r) :=
  .field (.real _) (.field (.real _) .complete)

theorem shaped_writeThreadRange (r : ThreadRange) : Shaped .bounds (writeThreadRange r) :=
  .bounds (.field (.natural _) (.field (.natural _) .complete))

theorem shaped_writeCanvas (c : CanvasSize) : Shaped canvasShape (writeCanvas c) :=
  .field (.natural _) (.field (.natural _) .complete)

theorem shaped_writePen (p : Pen) : Shaped penShape (writePen p) :=
  .field (.natural _) (.field (.natural _) (.field (.natural _) .complete))

theorem shaped_writeEntry (e : Entry) : Shaped entryShape (writeEntry e) :=
  .field (.text _) (.field (.text _) (.field (shaped_optionalText _)
    (.field (shaped_optionalText _) (.field (.text _) (.field (.text _) (.field (.text _)
      (.field (.text _) (.field (.natural _) .complete))))))))

theorem shaped_writePanels (p : PanelRanges) : Shaped panelShape (writePanels p) :=
  .field (shaped_writeRange _) (.field (shaped_writeRange _) .complete)

theorem shaped_writeInsertOnly (s : InsertOnly) : Shaped insertOnlyShape (writeInsertOnly s) :=
  .field (shaped_writeBackends _) (.field (shaped_writeBackends _)
    (.field (shaped_ofList _ .natural) (.field (shaped_writeMap _ shaped_writeThreadRange)
      (.field (shaped_writeMap _ shaped_writePanels) (.field (shaped_writeCanvas _) .complete)))))

theorem shaped_writeSqliteInsert (s : SqliteInsert) :
    Shaped sqliteInsertShape (writeSqliteInsert s) :=
  .field (.text _) (.field (shaped_writeBackends _) (.field (.natural _)
    (.field (shaped_ofList _ .real) (.field (shaped_writeRange _) (.field (.real _)
      (.field (shaped_writeRange _) (.field (shaped_writeCanvas _) .complete)))))))

theorem shaped_writeYcsb (s : Ycsb) : Shaped ycsbShape (writeYcsb s) :=
  .field (shaped_writeBackends _) (.field (shaped_ofList _ fun w => .text w.text)
    (.field (shaped_ofList _ fun _ => .field (.text _) (.field (.natural _) .complete))
      (.field (.real _) (.field (shaped_writeCanvas _) .complete))))

theorem shaped_writeRawWrite (s : RawWrite) : Shaped rawWriteShape (writeRawWrite s) :=
  .field (shaped_writeBackends _) (.field (shaped_writeRange _)
    (.field (shaped_writePanels _) (.field (shaped_writeCanvas _) .complete)))

theorem shaped_writeRawRead (s : RawRead) : Shaped rawReadShape (writeRawRead s) :=
  .field (shaped_ofList _ fun _ => .field (.text _) (.field (.text _) (.field (.text _) .complete)))
    (.field (shaped_writeRange _) (.field (shaped_writeCanvas _) .complete))

theorem shaped_writeRecovery (s : Recovery) : Shaped recoveryShape (writeRecovery s) := by
  have hpair (phase hatch : String) :
      Shaped (.list .scalar) (.list [.text phase, .text hatch]) := by
    refine .list fun v hv => ?_
    rcases List.mem_pair.mp hv with rfl | rfl
    · exact .text phase
    · exact .text hatch
  exact .field (shaped_writeBackends _) (.field (shaped_ofList _ .text)
    (.field (shaped_ofList _ fun entry => hpair _ _)
      (.field (.real _) (.field (shaped_writeCanvas _) .complete))))

theorem shaped_writeFigures (f : Figures) : Shaped figuresShape (writeFigures f) := by
  have hstyles : Shaped (.listOrNull entryShape) (.ofOption (.ofList writeEntry) f.styles) := by
    cases f.styles with
    | none => exact .nothing
    | some entries => exact .something (shaped_ofList entries shaped_writeEntry)
  exact .field (.natural _) (.field (shaped_writePen _) (.field hstyles
    (.field (shaped_writeInsertOnly _) (.field (shaped_writeSqliteInsert _)
      (.field (shaped_writeYcsb _) (.field (shaped_writeRawWrite _)
        (.field (shaped_writeRawRead _) (.field (shaped_writeRecovery _) .complete))))))))

/-! ## Readers refuse what has a fault in it -/

section
variable {ν : Type} [Source ν] {R : Rendering ν}

open Format.Rendering (guards_list guards_map guards_optional guards_record guards_scalar)

theorem guards_backends : R.Guards readBackends (.list .scalar) := guards_list (guards_scalar _)

theorem guards_range : R.Guards readRange rangeShape :=
  guards_record (by simp [rangeFields])
    (.cons ((guards_scalar _).required _ _) (.cons ((guards_scalar _).required _ _) .nil))

theorem guards_canvas : R.Guards readCanvas canvasShape :=
  guards_record (by simp [canvasFields])
    (.cons ((guards_scalar _).required _ _) (.cons ((guards_scalar _).required _ _) .nil))

theorem guards_pen : R.Guards readPen penShape :=
  guards_record (by simp [penFields])
    (.cons ((guards_scalar _).required _ _) (.cons ((guards_scalar _).required _ _)
      (.cons ((guards_scalar _).required _ _) .nil)))

theorem guards_entry : R.Guards readEntry entryShape :=
  guards_record (by simp [entryFields])
    (.cons ((guards_scalar _).required _ _) (.cons ((guards_scalar _).required _ _)
      (.cons ((guards_scalar _).defaulted _ _) (.cons ((guards_scalar _).defaulted _ _)
        (.cons ((guards_scalar _).required _ _) (.cons ((guards_scalar _).required _ _)
          (.cons ((guards_scalar _).defaulted _ _) (.cons ((guards_scalar _).required _ _)
            (.cons ((guards_scalar _).defaulted _ _) .nil)))))))))

theorem guards_panels : R.Guards readPanels panelShape :=
  guards_record (by simp [panelFields])
    (.cons (guards_range.required _ _) (.cons (guards_range.required _ _) .nil))

/-- Bounds that are upside down are no range, although each of them is a number. -/
theorem guards_threadRange (hlargest : Decimal.maxHalfWord ≤ R.largest) :
    R.Guards readThreadRange .bounds := by
  have hfields : R.Guards (Format.readRecord threadRangeFields .refuse default)
      (.record Shape.boundsFields) :=
    guards_record (by simp [threadRangeFields])
      (.cons ((guards_scalar _).required _ _) (.cons ((guards_scalar _).required _ _) .nil))
  intro v v' hfault
  unfold Rendering.Refuses readThreadRange
  cases hfault with
  | inBounds hfault =>
    obtain ⟨e, he⟩ := hfields v v' hfault
    exact ⟨e, by rw [he]; rfl⟩
  | @upsideDown min max _ hbounds hmin =>
    have hread : R.Reads (Format.readRecord threadRangeFields .refuse default)
        (.record [("min", .natural min), ("max", .natural max)]) (min, max) :=
      Rendering.reads_record (by simp [threadRangeFields])
        (.of (reads_halfWord hlargest hmin)
          (.of (reads_halfWord hlargest (Nat.le_trans hbounds.le hmin)) .nil))
    have hmake : ThreadRange.make min max = .error ⟨min, max⟩ := by
      unfold ThreadRange.make
      rw [dif_neg (Nat.not_le.mpr hbounds)]
    unfold Rendering.Reads at hread
    rw [hread]
    simp only [bind, Except.bind, hmake]
    exact ⟨_, rfl⟩

theorem guards_insertOnly (hlargest : Decimal.maxHalfWord ≤ R.largest) :
    R.Guards readInsertOnly insertOnlyShape :=
  guards_record (by simp [insertOnlyFields])
    (.cons (guards_backends.required _ _) (.cons (guards_backends.required _ _)
      (.cons ((guards_list (guards_scalar _)).required _ _)
        (.cons ((guards_map (guards_threadRange hlargest)).required _ _)
          (.cons ((guards_map guards_panels).required _ _)
            (.cons (guards_canvas.required _ _) .nil))))))

theorem guards_sqliteInsert : R.Guards readSqliteInsert sqliteInsertShape :=
  guards_record (by simp [sqliteInsertFields])
    (.cons ((guards_scalar _).required _ _) (.cons (guards_backends.required _ _)
      (.cons ((guards_scalar _).required _ _)
        (.cons ((guards_list (guards_scalar _)).required _ _)
          (.cons (guards_range.required _ _) (.cons ((guards_scalar _).required _ _)
            (.cons (guards_range.required _ _) (.cons (guards_canvas.required _ _) .nil))))))))

theorem guards_ycsb : R.Guards readYcsb ycsbShape := by
  have hdatabase : R.Guards readYcsbDatabase ycsbDatabaseShape :=
    guards_record (by simp [ycsbDatabaseFields])
      (.cons ((guards_scalar _).required _ _) (.cons ((guards_scalar _).required _ _) .nil))
  exact guards_record (by simp [ycsbFields])
    (.cons (guards_backends.required _ _) (.cons ((guards_list (guards_scalar _)).required _ _)
      (.cons ((guards_list hdatabase).required _ _) (.cons ((guards_scalar _).required _ _)
        (.cons (guards_canvas.required _ _) .nil)))))

theorem guards_rawWrite : R.Guards readRawWrite rawWriteShape :=
  guards_record (by simp [rawWriteFields])
    (.cons (guards_backends.required _ _) (.cons (guards_range.required _ _)
      (.cons (guards_panels.required _ _) (.cons (guards_canvas.required _ _) .nil))))

theorem guards_rawRead : R.Guards readRawRead rawReadShape := by
  have hline : R.Guards readRawReadLine rawReadLineShape :=
    guards_record (by simp [rawReadLineFields])
      (.cons ((guards_scalar _).required _ _) (.cons ((guards_scalar _).required _ _)
        (.cons ((guards_scalar _).defaulted _ _) .nil)))
  exact guards_record (by simp [rawReadFields])
    (.cons ((guards_list hline).required _ _) (.cons (guards_range.required _ _)
      (.cons (guards_canvas.required _ _) .nil)))

theorem guards_recovery : R.Guards readRecovery recoveryShape := by
  have hpair : R.Guards (Format.readPair readPhase readHatch) (.list .scalar) :=
    fun _ _ hfault => nomatch hfault
  exact guards_record (by simp [recoveryFields])
    (.cons (guards_backends.required _ _) (.cons ((guards_list (guards_scalar _)).required _ _)
      (.cons ((guards_list hpair).required _ _) (.cons ((guards_scalar _).required _ _)
        (.cons (guards_canvas.required _ _) .nil)))))

theorem guards_figures (hlargest : Decimal.maxHalfWord ≤ R.largest) :
    R.Guards readFigures figuresShape :=
  guards_record (by simp [figuresFields])
    (.cons ((guards_scalar _).defaulted _ _) (.cons (guards_pen.defaulted _ _)
      (.cons ((guards_optional guards_entry).defaulted _ _)
        (.cons ((guards_insertOnly hlargest).defaulted _ _)
          (.cons (guards_sqliteInsert.defaulted _ _) (.cons (guards_ycsb.defaulted _ _)
            (.cons (guards_rawWrite.defaulted _ _) (.cons (guards_rawRead.defaulted _ _)
              (.cons (guards_recovery.defaulted _ _) .nil)))))))))

end

/-! ## Sections that are left out -/

/-- The configuration with the standard values for some sections. -/
def Figures.without (f : Figures) (removed : List String) : Figures where
  trials := if "trial_count" ∈ removed then Figures.standard.trials else f.trials
  pen := if "pen" ∈ removed then Figures.standard.pen else f.pen
  styles := if "styles" ∈ removed then Figures.standard.styles else f.styles
  insertOnly := if "insert_only" ∈ removed then Figures.standard.insertOnly else f.insertOnly
  sqliteInsert :=
    if "sqlite_insert" ∈ removed then Figures.standard.sqliteInsert else f.sqliteInsert
  ycsb := if "ycsb" ∈ removed then Figures.standard.ycsb else f.ycsb
  rawWrite := if "raw_write" ∈ removed then Figures.standard.rawWrite else f.rawWrite
  rawRead := if "raw_read" ∈ removed then Figures.standard.rawRead else f.rawRead
  recovery := if "recovery" ∈ removed then Figures.standard.recovery else f.recovery

section
variable {ν : Type} [Source ν] {R : Rendering ν}

theorem reads_without (hlargest : Decimal.maxHalfWord ≤ R.largest) {f : Figures} (h : f.Fits)
    (hpositions : ∀ d ∈ f.ycsb.databases, d.legendPosition ≤ R.largest)
    (hreals : KeepsAll R f.reals) (removed : List String) :
    R.Reads readFigures ((writeFigures f).without removed) (f.without removed) := by
  have hstyles : R.Reads (Format.readOptional (Format.readList readEntry))
      (.ofOption (.ofList writeEntry) f.styles) f.styles :=
    Format.Rendering.reads_optional (fun entries _ => R.isNull_list _) fun entries hentries =>
      Format.Rendering.reads_list fun e he => reads_entry hlargest (h.styles entries hentries e he)
  have hfills : R.FillsWithout removed figuresFields _ Figures.standard (f.without removed) :=
    .optional (reads_halfWord hlargest h.trials) rfl
      (.optional (reads_pen hlargest h.pen) rfl
        (.optional hstyles rfl
          (.optional (reads_insertOnly hlargest h.insertOnly hreals.left.left.left.left.left) rfl
            (.optional (reads_sqliteInsert hlargest h.sqliteInsert hreals.left.left.left.left.right)
              rfl
              (.optional (reads_ycsb hlargest h.ycsb hpositions hreals.left.left.left.right) rfl
                (.optional (reads_rawWrite hlargest h.rawWrite hreals.left.left.right) rfl
                  (.optional (reads_rawRead hlargest h.rawRead hreals.left.right) rfl
                    (.optional (reads_recovery hlargest h.recovery hreals.right) rfl
                      .nil))))))))
  refine Format.Rendering.reads_record_of_sublist (by simp [figuresFields]) List.filter_sublist ?_
    hfills
  intro g hg hrequired
  simp only [figuresFields, List.mem_cons, List.not_mem_nil, or_false] at hg
  rcases hg with rfl | rfl | rfl | rfl | rfl | rfl | rfl | rfl | rfl <;>
    simp [Format.Field.optional] at hrequired

end

/-- A value as a document. -/
def FileFormat.write : FileFormat → Value → String
  | json5 => Json.write
  | yaml => Yaml.write

theorem encode_eq_write (format : FileFormat) (f : Figures) :
    figuresCodec.encode format f = format.write (writeFigures f) := by
  cases format <;> rfl

theorem decode_without (format : FileFormat) {f : Figures} (h : f.Fits)
    (hpositions : format = .json5 → ∀ d ∈ f.ycsb.databases, d.legendPosition ≤ 2 ^ 53)
    (hfinite : ∀ x ∈ f.reals, x.isFinite = true) (removed : List String) :
    figuresCodec.decode format (format.write ((writeFigures f).without removed)) =
      .ok (f.without removed) := by
  have hreals (form : Decimal.NumberForm) : ∀ x ∈ f.reals, x.isFinite = true ∧ form.Keeps x :=
    fun x hx => ⟨hfinite x hx, Decimal.keeps_of_isFinite form (hfinite x hx)⟩
  cases format with
  | json5 =>
    have hlargest : Decimal.maxHalfWord ≤ 2 ^ 53 := by decide
    have hread := Json.decode_write
      (reads_without (R := Json.rendering) hlargest h (hpositions rfl) (hreals _) removed)
    simp [Codec.decode, FileFormat.write, figuresCodec, hread, Except.mapError]
  | yaml =>
    have hlargest : Decimal.maxHalfWord ≤ Decimal.maxWord := by decide
    have hread := Yaml.decode_write fun d =>
      reads_without (R := Yaml.rendering d) hlargest h h.ycsb.positions (hreals _) removed
    simp [Codec.decode, FileFormat.write, figuresCodec, hread, Except.mapError]

theorem decode_fault (format : FileFormat) {v v' : Value} (h : Fault figuresShape v v') :
    ∃ e, figuresCodec.decode format (format.write v') = .error e := by
  cases format with
  | json5 =>
    have hlargest : Decimal.maxHalfWord ≤ 2 ^ 53 := by decide
    obtain ⟨e, he⟩ := Json.decode_write_refused
      (guards_figures (R := Json.rendering) hlargest v v' h)
    exact ⟨⟨.json5, e⟩, by simp [Codec.decode, FileFormat.write, figuresCodec, he, Except.mapError]⟩
  | yaml =>
    have hlargest : Decimal.maxHalfWord ≤ Decimal.maxWord := by decide
    obtain ⟨e, he⟩ := Yaml.decode_write_refused fun d =>
      guards_figures (R := Yaml.rendering d) hlargest v v' h
    exact ⟨⟨.yaml, e⟩, by simp [Codec.decode, FileFormat.write, figuresCodec, he, Except.mapError]⟩

/-- The document of a configuration may lose any sections, which then have their standard values,
but with a fault anywhere in it, it is refused. -/
theorem decode_strict (format : FileFormat) {f : Figures} (h : f.Fits)
    (hpositions : format = .json5 → ∀ d ∈ f.ycsb.databases, d.legendPosition ≤ 2 ^ 53)
    (hfinite : ∀ x ∈ f.reals, x.isFinite = true) :
    figuresCodec.encode format f = format.write (writeFigures f) ∧
      Shaped figuresShape (writeFigures f) ∧
      ∀ removed : List String,
        figuresCodec.decode format (format.write ((writeFigures f).without removed)) =
          .ok (f.without removed) ∧
        ∀ v, Fault figuresShape ((writeFigures f).without removed) v →
          ∃ e, figuresCodec.decode format (format.write v) = .error e :=
  ⟨encode_eq_write format f, shaped_writeFigures f, fun removed =>
    ⟨decode_without format h hpositions hfinite removed,
      fun _ hfault => decode_fault format hfault⟩⟩

/-- The names of all sections. -/
def sections : List String :=
  ["trial_count", "pen", "styles", "insert_only", "sqlite_insert", "ycsb", "raw_write", "raw_read",
    "recovery"]

theorem decode_strict_odd :
    oddFigures.Fits ∧ (∀ d ∈ oddFigures.ycsb.databases, d.legendPosition ≤ 2 ^ 53) ∧
      (∀ x ∈ oddFigures.reals, x.isFinite = true) ∧
      figuresCodec.decode .json5
        (FileFormat.json5.write ((writeFigures oddFigures).without (sections.erase "styles"))) =
          .ok oddFigures ∧
      ∃ e, figuresCodec.decode .json5 (FileFormat.json5.write (.record [("style", .null)])) =
        .error e := by
  have hpositions : ∀ d ∈ oddFigures.ycsb.databases, d.legendPosition ≤ 2 ^ 53 := by decide
  have hfinite : ∀ x ∈ oddFigures.reals, x.isFinite = true := by decide +kernel
  have hempty : (writeFigures oddFigures).without sections = .record [] := by
    simp [writeFigures, Value.without, sections]
  obtain ⟨-, -, hstrict⟩ := decode_strict .json5 fits_oddFigures (fun _ => hpositions) hfinite
  refine ⟨fits_oddFigures, hpositions, hfinite, (hstrict _).1, ?_⟩
  have hfault : Fault figuresShape (.record []) (.record [("style", .null)]) :=
    @Fault.unknown _ [] [] "style" (by decide) .null
  exact (hstrict sections).2 _ (hempty ▸ hfault)

end BenchCharts.Config

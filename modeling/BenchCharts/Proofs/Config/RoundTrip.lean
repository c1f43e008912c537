import BenchCharts.Proofs.Config.Saving
import BenchCharts.Proofs.Config.Sections
import BenchCharts.Proofs.Json.Rendering
import BenchCharts.Proofs.Yaml.Rendering

/-!
Configurations that are saved and loaded again are the same ones, in either format. Their texts may
hold any characters; doubles must be finite, and in the format that reads numbers as doubles the
positions of legends must be exact.
-/
namespace BenchCharts.Config

open Files (Path Tree)

/-- How doubles are written in a format. -/
def FileFormat.numberForm : FileFormat → Decimal.NumberForm
  | json5 => Json.numberForm
  | yaml => Yaml.numberForm

theorem decode_encode_figures (format : FileFormat) {f : Figures} (h : f.Fits)
    (hpositions : format = .json5 → ∀ d ∈ f.ycsb.databases, d.legendPosition ≤ 2 ^ 53)
    (hreals : ∀ x ∈ f.reals, x.isFinite = true ∧ format.numberForm.Keeps x) :
    figuresCodec.decode format (figuresCodec.encode format f) = .ok f := by
  cases format with
  | json5 =>
    have hlargest : Decimal.maxHalfWord ≤ 2 ^ 53 := by decide
    have hread := Json.decode_write
      (reads_figures (R := Json.rendering) hlargest h (hpositions rfl) hreals)
    simp [Codec.decode, Codec.encode, figuresCodec, hread, Except.mapError]
  | yaml =>
    have hlargest : Decimal.maxHalfWord ≤ Decimal.maxWord := by decide
    have hread := Yaml.decode_write fun d =>
      reads_figures (R := Yaml.rendering d) hlargest h h.ycsb.positions hreals
    simp [Codec.decode, Codec.encode, figuresCodec, hread, Except.mapError]

theorem ofPath_of_extension {path : Path} {extension : String} {format : FileFormat}
    (h : path.extension? = some extension) (hknown : (extension, format) ∈ FileFormat.extensions) :
    FileFormat.ofPath path = .ok format := by
  have hlookup : ∀ entry ∈ FileFormat.extensions,
      FileFormat.extensions.lookup entry.1 = some entry.2 := by decide
  simp [FileFormat.ofPath, h, hlookup _ hknown]

/-- A configuration comes back from every file whose extension names a format. -/
theorem load_saved_figures {f : Figures} {format : FileFormat} {extension : String} {t : Tree}
    {path : Path} (h : f.Fits)
    (hpositions : format = .json5 → ∀ d ∈ f.ycsb.databases, d.legendPosition ≤ 2 ^ 53)
    (hfinite : ∀ x ∈ f.reals, x.isFinite = true)
    (hkeeps : ∀ x ∈ f.reals, format.numberForm.Keeps x)
    (hextension : path.extension? = some extension)
    (hknown : (extension, format) ∈ FileFormat.extensions) (hpath : t.Writable path)
    (base : Option Path) :
    ∃ t', figuresCodec.saveTo t path f = .ok t' ∧
      figuresCodec.load t' base (some path) = .ok (.found f) :=
  Codec.load_saveTo
    (decode_encode_figures format h hpositions fun x hx => ⟨hfinite x hx, hkeeps x hx⟩)
    (ofPath_of_extension hextension hknown) hpath base

/-- The standard figures with one look of their own, whose texts could be taken for something
else. -/
def oddFigures : Figures :=
  { Figures.standard with
    styles := some
      [{ id := ⟨""⟩, displayName := "null", barLabel := some "a\nb ", sweepLabel := none,
         color := ⟨1, 2, 255⟩, marker := .star, hatch := ⟨"\"\\\x07"⟩, lineStyle := .dashDot,
         groupSide := 255 }] }

theorem fits_oddFigures : oddFigures.Fits :=
  { Figures.fits_standard with styles := by decide }

theorem load_saved_figures_odd :
    oddFigures.Fits ∧ (∀ d ∈ oddFigures.ycsb.databases, d.legendPosition ≤ 2 ^ 53) ∧
      (∀ x ∈ oddFigures.reals, x.isFinite = true) ∧
      (∀ x ∈ oddFigures.reals, FileFormat.json5.numberForm.Keeps x) ∧
      Path.extension? ⟨"figures.json"⟩ = some "json" ∧
      ("json", FileFormat.json5) ∈ FileFormat.extensions ∧
      Tree.empty.Writable ⟨"figures.json"⟩ ∧
      ∃ t', figuresCodec.saveTo .empty ⟨"figures.json"⟩ oddFigures = .ok t' ∧
        figuresCodec.load t' none (some ⟨"figures.json"⟩) = .ok (.found oddFigures) := by
  have hpositions : ∀ d ∈ oddFigures.ycsb.databases, d.legendPosition ≤ 2 ^ 53 := by decide
  have hfinite : ∀ x ∈ oddFigures.reals, x.isFinite = true := by decide +kernel
  have hkeeps : ∀ x ∈ oddFigures.reals, FileFormat.json5.numberForm.Keeps x := by decide +kernel
  have hextension : Path.extension? ⟨"figures.json"⟩ = some "json" := by decide +kernel
  have hknown : ("json", FileFormat.json5) ∈ FileFormat.extensions := by decide
  have hpath : Tree.empty.Writable ⟨"figures.json"⟩ :=
    ⟨["figures.json"], by decide +kernel, by decide +kernel⟩
  exact ⟨fits_oddFigures, hpositions, hfinite, hkeeps, hextension, hknown, hpath,
    load_saved_figures fits_oddFigures (fun _ => hpositions) hfinite hkeeps hextension hknown hpath
      none⟩

end BenchCharts.Config

import BenchCharts.LogSize.Record
import BenchCharts.Proofs.Config.Saving
import BenchCharts.Proofs.Yaml.Rendering

/-!
Records that are saved and loaded again are the same ones, whatever the logs are called and however
long their series are.
-/
namespace BenchCharts.LogSize

open Config (Codec)
open Files (Path Tree)
open Format (Rendering Source)

/-- Times and sizes are numbers of 64 bits. -/
def LogSeries.InWords (s : LogSeries) : Prop :=
  (∀ time ∈ s.times, time ≤ Decimal.maxWord) ∧ ∀ size ∈ s.sizes, size ≤ Decimal.maxWord

instance (s : LogSeries) : Decidable s.InWords := inferInstanceAs (Decidable (_ ∧ _))

section
variable {ν : Type} [Source ν] {R : Rendering ν}

theorem reads_words (hlargest : Decimal.maxWord ≤ R.largest) {numbers : List Nat}
    (h : ∀ n ∈ numbers, n ≤ Decimal.maxWord) :
    R.Reads (Format.readList Format.readWord) (.ofList .natural numbers) numbers :=
  Rendering.reads_list fun n hn =>
    Rendering.reads_natural (h n hn) (.inr rfl) (Nat.le_trans (h n hn) hlargest)

theorem reads_series (hlargest : Decimal.maxWord ≤ R.largest) {s : LogSeries} (h : s.InWords) :
    R.Reads readSeries (writeSeries s) s :=
  Rendering.reads_record (by simp [seriesFields])
    (.of (reads_words hlargest h.1) (.of (reads_words hlargest h.2) .nil))

theorem reads_logs (hlargest : Decimal.maxWord ≤ R.largest) {r : Record}
    (hlogs : r.logs.Ascending) (h : ∀ entry ∈ r.logs.entries, entry.2.InWords) :
    R.Reads readRecord (writeRecord r) r :=
  (Rendering.reads_map hlogs fun entry hentry => reads_series hlargest (h entry hentry)).map
    Record.mk

end

namespace Record

theorem load_save {r : Record} (hlogs : r.logs.Ascending)
    (h : ∀ entry ∈ r.logs.entries, entry.2.InWords) {t : Tree} {path : Path}
    (hpath : t.Writable path) :
    ∃ t', r.save t path = .ok t' ∧ load t' path = .ok r := by
  have hdecode : recordCodec.decode .yaml (recordCodec.encode .yaml r) = .ok r := by
    have hread :=
      Yaml.decode_write fun d => reads_logs (R := Yaml.rendering d) (Nat.le_refl _) hlogs h
    simp [Codec.decode, Codec.encode, recordCodec, hread, Except.mapError]
  exact Codec.loadAs_saveAs hdecode hpath

/-- Names that need quotes, escapes or a line of their own, and the largest number. -/
theorem load_save_odd_names :
    let r : Record := ⟨⟨[("", ⟨[], []⟩), (" wal: #1", ⟨[0, 18446744073709551615], [3]⟩),
      ("\"\x00", ⟨[], [7]⟩), ("a\nb", ⟨[5], []⟩), ("null", ⟨[1, 1], [2, 2]⟩)]⟩⟩
    r.logs.Ascending ∧ (∀ entry ∈ r.logs.entries, entry.2.InWords) ∧
      Tree.empty.Writable ⟨"sizes"⟩ ∧
      ∃ t', r.save .empty ⟨"sizes"⟩ = .ok t' ∧ load t' ⟨"sizes"⟩ = .ok r := by
  intro r
  have hlogs : r.logs.Ascending := by decide +kernel
  have hwords : ∀ entry ∈ r.logs.entries, entry.2.InWords := by decide +kernel
  have hpath : Tree.empty.Writable ⟨"sizes"⟩ := ⟨["sizes"], by decide +kernel, by decide +kernel⟩
  exact ⟨hlogs, hwords, hpath, load_save hlogs hwords hpath⟩

end Record

end BenchCharts.LogSize

import BenchCharts.Config.File
import BenchCharts.Proofs.Files.Reading

/-!
Values that are saved and loaded again. A file can be written wherever its path leads to a place
that is no directory, and afterwards the same path leads to what was written.
-/
namespace BenchCharts

namespace Files.Tree

/-- A file can be written there. -/
def Writable (t : Tree) (path : Path) : Prop :=
  ∃ place, t.locate path = .ok place ∧ t.at? place ≠ some .directory

theorem read_write {t : Tree} {path : Path} (h : t.Writable path) (text : String) :
    ∃ t', t.write path text = .ok t' ∧ t'.read path = .ok text := by
  obtain ⟨place, hlocate, hfree⟩ := h
  have haccepts := accepts_of_locate hlocate hfree
  have hsame := sameDirectories_put (.text text) haccepts
  refine ⟨t.put place (.file (.text text)), ?_, ?_⟩
  · simp only [write, hlocate]
  · rw [read_eq_ok_iff]
    exact ⟨place, .text text, hsame.1.locate hlocate, at?_put_self t place _ haccepts, rfl⟩

end Files.Tree

namespace Config

open Files (Path Tree)

namespace Codec

variable {α : Type} {codec : Codec α} {format : FileFormat} {a : α} {t : Tree} {path : Path}

theorem loadAs_saveAs (h : codec.decode format (codec.encode format a) = .ok a)
    (hpath : t.Writable path) :
    ∃ t', codec.saveAs t format path a = .ok t' ∧ codec.loadAs t' format path = .ok a := by
  obtain ⟨t', hwrite, hread⟩ := Tree.read_write hpath (codec.encode format a)
  refine ⟨t', ?_, ?_⟩
  · simp [saveAs, hwrite]
  · simp [loadAs, hread, h, Except.mapError]

theorem load_saveTo (h : codec.decode format (codec.encode format a) = .ok a)
    (hformat : FileFormat.ofPath path = .ok format) (hpath : t.Writable path) (base : Option Path) :
    ∃ t', codec.saveTo t path a = .ok t' ∧ codec.load t' base (some path) = .ok (.found a) := by
  obtain ⟨t', hsave, hload⟩ := loadAs_saveAs h hpath
  refine ⟨t', ?_, ?_⟩
  · rw [saveTo, hformat]
    exact hsave
  · rw [load_path, loadFrom, hformat]
    simp [bind, Except.bind, hload, Except.map]

end Codec

end Config

end BenchCharts

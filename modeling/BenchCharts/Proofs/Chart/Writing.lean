import BenchCharts.Chart.Document
import BenchCharts.Proofs.Files.Parallel
import BenchCharts.Proofs.Files.Reading

/-!
Documents written into a directory that is made on the way. Whether one can be written, and what the
error is, does not depend on its text, nor on other documents that were written into the same
directory before, or that could not be.
-/
namespace BenchCharts.Chart

open Files (Location Path PlainName Tree)

variable {t u : Tree} {directory path : Path} {place : Location} {text text' : String}

theorem writeDocument_eq (hpath : path.parent? = some directory) :
    writeDocument t path text =
      match (t.makeDirectories directory).2 with
      | .error _ => ((t.makeDirectories directory).1, .error (.noDirectory directory))
      | .ok _ =>
        match (t.makeDirectories directory).1.write path text with
        | .error _ => ((t.makeDirectories directory).1, .error (.unwritable path))
        | .ok written => (written, .ok ()) := by
  unfold writeDocument makeParent
  simp only [hpath]
  rcases t.makeDirectories directory with ⟨made, e | _⟩
  · rfl
  · rfl

theorem writeDocument_of_error (hpath : path.parent? = some directory) {e : Files.FileError}
    (hmade : (t.makeDirectories directory).2 = .error e) :
    writeDocument t path text =
      ((t.makeDirectories directory).1, .error (.noDirectory directory)) := by
  rw [writeDocument_eq hpath, hmade]

theorem writeDocument_of_locate (hpath : path.parent? = some directory)
    (hmade : (t.makeDirectories directory).2 = .ok ())
    (hlocate : (t.makeDirectories directory).1.locate path = .ok place)
    (hfree : (t.makeDirectories directory).1.at? place ≠ some .directory) :
    writeDocument t path text =
      ((t.makeDirectories directory).1.put place (.file (.text text)), .ok ()) := by
  have hwrite : (t.makeDirectories directory).1.write path text =
      .ok ((t.makeDirectories directory).1.put place (.file (.text text))) := by
    unfold Tree.write
    rw [hlocate]
    dsimp only
    split
    · next hdir => exact absurd hdir hfree
    · rfl
  rw [writeDocument_eq hpath, hmade]
  simp only [hwrite]

theorem writeDocument_makeDirectories (hpath : path.parent? = some directory) :
    writeDocument (t.makeDirectories directory).1 path text = writeDocument t path text := by
  rw [writeDocument_eq hpath, writeDocument_eq hpath, Tree.makeDirectories_again]

theorem writeDocument_of_blocked (hpath : path.parent? = some directory)
    (hmade : (t.makeDirectories directory).2 = .ok ())
    (hblocked : ∀ place, (t.makeDirectories directory).1.locate path = .ok place →
      (t.makeDirectories directory).1.at? place = some .directory) :
    writeDocument t path text =
      ((t.makeDirectories directory).1, .error (.unwritable path)) := by
  have hwrite : ∃ e, (t.makeDirectories directory).1.write path text = .error e := by
    unfold Tree.write
    cases hlocate : (t.makeDirectories directory).1.locate path with
    | error e => exact ⟨e, rfl⟩
    | ok place =>
      refine ⟨.isDirectory, ?_⟩
      simp only [hblocked place hlocate]
  obtain ⟨e, he⟩ := hwrite
  rw [writeDocument_eq hpath, hmade]
  simp only [he]

/-- In trees that are akin, both documents come to the same error, and only directories are made, or
both are put to the same place. -/
theorem writing_cases (hpath : path.parent? = some directory) (hakin : Tree.Akin directory t u)
    (text text' : String) :
    (∃ e, writeDocument t path text = ((t.makeDirectories directory).1, .error e) ∧
      writeDocument u path text' = ((u.makeDirectories directory).1, .error e)) ∨
    ∃ place, (t.makeDirectories directory).2 = .ok () ∧
      (t.makeDirectories directory).1.locate path = .ok place ∧
      (t.makeDirectories directory).1.Accepts place ∧
      (u.makeDirectories directory).1.Accepts place ∧
      writeDocument t path text =
        ((t.makeDirectories directory).1.put place (.file (.text text)), .ok ()) ∧
      writeDocument u path text' =
        ((u.makeDirectories directory).1.put place (.file (.text text')), .ok ()) := by
  cases hmade : (t.makeDirectories directory).2 with
  | error e =>
    have hmade' := hakin.result_eq.symm.trans hmade
    exact Or.inl ⟨_, writeDocument_of_error hpath hmade, writeDocument_of_error hpath hmade'⟩
  | ok _ =>
    have hmade' := hakin.result_eq.symm.trans hmade
    by_cases h : ∃ place, (t.makeDirectories directory).1.locate path = .ok place ∧
        (t.makeDirectories directory).1.at? place ≠ some .directory
    · obtain ⟨place, hlocate, hfree⟩ := h
      have hlocate' := hakin.same.1.locate hlocate
      have hfree' := mt (hakin.same.2 place) hfree
      right
      exact ⟨place, rfl, hlocate, Tree.accepts_of_locate hlocate hfree,
        Tree.accepts_of_locate hlocate' hfree', writeDocument_of_locate hpath hmade hlocate hfree,
        writeDocument_of_locate hpath hmade' hlocate' hfree'⟩
    · have hblocked : ∀ place, (t.makeDirectories directory).1.locate path = .ok place →
          (t.makeDirectories directory).1.at? place = some .directory := by
        intro place hlocate
        by_contra hfree
        exact h ⟨place, hlocate, hfree⟩
      have hblocked' : ∀ place, (u.makeDirectories directory).1.locate path = .ok place →
          (u.makeDirectories directory).1.at? place = some .directory := by
        intro place hlocate
        exact hakin.same.1 place (hblocked place (hakin.same.2.locate hlocate))
      exact Or.inl ⟨_, writeDocument_of_blocked hpath hmade hblocked,
        writeDocument_of_blocked hpath hmade' hblocked'⟩

theorem akin_writeDocument (hpath : path.parent? = some directory) (t : Tree) (text : String) :
    Tree.Akin directory t (writeDocument t path text).1 := by
  rcases writing_cases hpath (.refl directory t) text text with
    ⟨e, h, -⟩ | ⟨place, hmade, -, haccepts, -, h, -⟩
  · rw [h]
    exact .makeDirectories directory t
  · rw [h]
    refine (Tree.Akin.makeDirectories directory t).trans ?_
    apply Tree.Akin.of_sameDirectories _ (Tree.sameDirectories_put (.text text) haccepts)
    rw [Tree.makeDirectories_again]
    exact Prod.ext rfl hmade

theorem at?_writeDocument (hpath : path.parent? = some directory)
    (hakin : Tree.Akin directory t u) (hmade : (t.makeDirectories directory).2 = .ok ())
    (hlocate : (t.makeDirectories directory).1.locate path = .ok place)
    (hfree : (t.makeDirectories directory).1.at? place ≠ some .directory) :
    (writeDocument u path text).1.at? place = some (.file (.text text)) := by
  have hlocate' := hakin.same.1.locate hlocate
  have hfree' := mt (hakin.same.2 place) hfree
  rw [writeDocument_of_locate hpath (hakin.result_eq.symm.trans hmade) hlocate' hfree']
  exact Tree.at?_put_self _ place _ (Tree.accepts_of_locate hlocate' hfree')

/-- Writing ends alike in trees that are akin, whatever is written. -/
theorem result_writeDocument (hpath : path.parent? = some directory)
    (hakin : Tree.Akin directory t u) :
    (writeDocument t path text).2 = (writeDocument u path text').2 := by
  rcases writing_cases hpath hakin text text' with ⟨e, ht, hu⟩ | ⟨place, -, -, -, -, ht, hu⟩
  · rw [ht, hu]
  · rw [ht, hu]

/-- While documents are written to one place in two trees, both change alike. -/
theorem parallel_writeDocument {texts : Prop} (hpath : path.parent? = some directory)
    (hakin : Tree.Akin directory t u) (h : texts → text = text') :
    Tree.Parallel texts t (writeDocument t path text).1 u (writeDocument u path text').1 := by
  have hmake : Tree.Parallel texts t (t.makeDirectories directory).1 u
      (u.makeDirectories directory).1 := .makeDirectories hakin
  rcases writing_cases hpath hakin text text' with
    ⟨e, ht, hu⟩ | ⟨place, -, -, haccepts, haccepts', ht, hu⟩
  · rw [ht, hu]
    exact hmake
  · rw [ht, hu]
    refine hmake.trans (.put haccepts haccepts' ?_)
    intro htexts
    rw [h htexts]

/-- A tree in which documents were written to a directory below a base: it has all places and
directories that it had, and of the given records each that could be read is the same. -/
structure Follows (base directory : Path) (IsRecord : Path → Prop) (t u : Tree) : Prop where
  akin : Tree.Akin directory t u
  places : t.places <+: u.places
  keeps : t.Keeps u
  read_iff : t.Steady base → ∀ path, IsRecord path → ∀ text,
    t.read path = .ok text ↔ u.read path = .ok text

namespace Follows

variable {base : Path} {IsRecord : Path → Prop} {v : Tree}

theorem refl (base directory : Path) (IsRecord : Path → Prop) (t : Tree) :
    Follows base directory IsRecord t t :=
  ⟨.refl directory t, List.prefix_rfl, fun _ h => h, fun _ _ _ _ => Iff.rfl⟩

theorem trans (h : Follows base directory IsRecord t u) (h' : Follows base directory IsRecord u v) :
    Follows base directory IsRecord t v := by
  refine ⟨h.akin.trans h'.akin, h.places.trans h'.places, h.keeps.trans h'.keeps, ?_⟩
  intro hsteady path hpath text
  rw [h.read_iff hsteady path hpath text]
  exact h'.read_iff (hsteady.keeps h.keeps) path hpath text

theorem makeDirectories (h : ∀ path, IsRecord path → ∃ last, base.Below last path) (t : Tree) :
    Follows base directory IsRecord t (t.makeDirectories directory).1 := by
  have hadds := Tree.addsDirectories_makeDirectories t directory
  refine ⟨.makeDirectories directory t, Tree.places_prefix_makeDirectories t directory,
    hadds.keeps, ?_⟩
  intro hsteady path hpath text
  obtain ⟨last, hbelow⟩ := h path hpath
  exact Tree.read_iff_of_addsDirectories hadds hsteady hbelow

/-- A written document is no record. -/
theorem writeDocument {name : String} (hpath : path.parent? = some directory)
    (hname : base.Below name path)
    (h : ∀ record, IsRecord record → ∃ last, base.Below last record ∧ last ≠ name)
    (t : Tree) (text : String) :
    Follows base directory IsRecord t (Chart.writeDocument t path text).1 := by
  have hakin := akin_writeDocument hpath t text
  have hmake : Follows base directory IsRecord t (t.makeDirectories directory).1 := by
    apply makeDirectories
    intro record hrecord
    obtain ⟨last, hbelow, -⟩ := h record hrecord
    exact ⟨last, hbelow⟩
  rcases writing_cases hpath (.refl directory t) text text with
    ⟨e, hwritten, -⟩ | ⟨place, -, hlocate, haccepts, -, hwritten, -⟩
  · rw [hwritten]
    exact hmake
  · rw [hwritten] at hakin ⊢
    have hsame := Tree.sameDirectories_put (.text text) haccepts
    refine hmake.trans ⟨hmake.akin.symm.trans hakin, Tree.places_prefix_put _ _ _, hsame.1, ?_⟩
    intro _ record hrecord found
    obtain ⟨last, hbelow, hne⟩ := h record hrecord
    obtain ⟨m, hm⟩ := Tree.concat_of_below hname hlocate
    apply Tree.read_iff_put haccepts hbelow
    rw [hm, List.getLast?_concat, ne_eq, Option.some_inj]
    exact hne.symm

end Follows

end BenchCharts.Chart

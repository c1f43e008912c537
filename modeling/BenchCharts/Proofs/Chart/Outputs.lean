import BenchCharts.Chart.Document
import BenchCharts.Proofs.Files.Places

/-!
Documents written one after the other. Each is a file once it is written, and remains one; what it
holds is only changed by a document that is written to the same place.
-/
namespace BenchCharts.Chart

open Files (Location Path Tree)

variable {t u v : Tree} {path : Path} {text : String} {documents : List (Path × String)}

theorem addsDirectories_makeParent (t : Tree) (path : Path) :
    t.AddsDirectories (makeParent t path).1 := by
  unfold makeParent
  split
  · exact .refl t
  · next directory _ =>
    have hadds := Tree.addsDirectories_makeDirectories t directory
    split
    · next made _ hmade => rwa [hmade] at hadds
    · next made _ hmade => rwa [hmade] at hadds

/-- A document becomes the file at one place. All other files and all directories stay. -/
theorem exists_place_of_writeDocument (h : writeDocument t path text = (u, .ok ())) :
    ∃ place, u.locate path = .ok place ∧ u.at? place = some (.file (.text text)) ∧ t.Keeps u ∧
      ∀ q, q ≠ place → ∀ content,
        t.at? q = some (.file content) → u.at? q = some (.file content) := by
  have hadds := addsDirectories_makeParent t path
  unfold writeDocument at h
  split at h
  · simp at h
  · next made _ hmade =>
    rw [hmade] at hadds
    dsimp only at hadds
    split at h
    · simp at h
    · next written hwritten =>
      obtain rfl : written = u := (Prod.mk.inj h).1
      unfold Tree.write at hwritten
      split at hwritten
      · simp at hwritten
      · next place hlocate =>
        split at hwritten
        · simp at hwritten
        · next hfree =>
          obtain rfl := Except.ok.inj hwritten
          have haccepts := Tree.accepts_of_locate hlocate hfree
          have hsame := Tree.sameDirectories_put (.text text) haccepts
          refine ⟨place, hsame.1.locate hlocate, Tree.at?_put_self _ place _ haccepts,
            hadds.keeps.trans hsame.1, ?_⟩
          intro q hq content hcontent
          rw [Tree.at?_put_of_ne _ place q _ hq]
          rcases hadds q with hkept | ⟨hnone, -⟩
          · rw [hkept]
            exact hcontent
          · rw [hcontent] at hnone
            contradiction

/-- Documents that were all written, the first one first. -/
inductive Written : Tree → List (Path × String) → Tree → Prop
  | nil (t : Tree) : Written t [] t
  | cons {t u v : Tree} {path : Path} {text : String} {rest : List (Path × String)}
      (hfirst : writeDocument t path text = (u, .ok ())) (hrest : Written u rest v) :
      Written t ((path, text) :: rest) v

namespace Written

theorem append {more : List (Path × String)} (h : Written t documents u)
    (hmore : Written u more v) : Written t (documents ++ more) v := by
  induction h with
  | nil t => exact hmore
  | cons hfirst _ ih => exact .cons hfirst (ih hmore)

theorem keeps (h : Written t documents u) : t.Keeps u := by
  induction h with
  | nil t => exact fun _ hdirectory => hdirectory
  | cons hfirst _ ih =>
    obtain ⟨-, -, -, hkeeps, -⟩ := exists_place_of_writeDocument hfirst
    exact hkeeps.trans ih

/-- A file stays as it is if no document is written to its place. -/
theorem file_of_apart (h : Written t documents u) {place : Location}
    (hapart : ∀ d ∈ documents, d.1.place? ≠ some place) {content : Files.Content}
    (hfile : t.at? place = some (.file content)) : u.at? place = some (.file content) := by
  induction h with
  | nil t => exact hfile
  | cons hfirst _ ih =>
    rw [List.forall_mem_cons] at hapart
    obtain ⟨q, hlocate, -, -, hothers⟩ := exists_place_of_writeDocument hfirst
    apply ih hapart.2
    apply hothers place _ _ hfile
    rintro rfl
    exact hapart.1 (Path.leadsTo_of_locate hlocate)

/-- Each document leads somewhere. -/
theorem isSome_place? (h : Written t documents u) :
    ∀ d ∈ documents, d.1.place?.isSome = true := by
  induction h with
  | nil t => simp
  | cons hfirst _ ih =>
    obtain ⟨q, hlocate, -, -, -⟩ := exists_place_of_writeDocument hfirst
    rw [List.forall_mem_cons]
    refine ⟨?_, ih⟩
    rw [Path.leadsTo_of_locate hlocate]
    rfl

/-- Documents in different places are all there in the end. -/
theorem read_eq_ok (h : Written t documents u)
    (hnodup : (documents.map (·.1.place?)).Nodup) : ∀ d ∈ documents, u.read d.1 = .ok d.2 := by
  induction h with
  | nil t => simp
  | @cons t u v path text rest hfirst hrest ih =>
    rw [List.map_cons, List.nodup_cons] at hnodup
    rw [List.forall_mem_cons]
    refine ⟨?_, ih hnodup.2⟩
    obtain ⟨place, hlocate, hfile, -, -⟩ := exists_place_of_writeDocument hfirst
    have hplace : path.place? = some place := Path.leadsTo_of_locate hlocate
    rw [Tree.read_eq_ok_iff]
    refine ⟨place, .text text, hrest.keeps.locate hlocate, ?_, rfl⟩
    apply hrest.file_of_apart _ hfile
    intro d hd heq
    rw [← hplace] at heq
    exact hnodup.1 (List.mem_map.mpr ⟨d, hd, heq⟩)

end Written

end BenchCharts.Chart

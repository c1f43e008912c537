import BenchCharts.Proofs.Files.Places

/-!
What making the directories of a path adds to a tree: directories at places on the way along the
path, where nothing was before.
-/
namespace BenchCharts.Files

/-- The path comes by the place: some of its first steps lead there. -/
def Path.Passes (p : Path) (place : Location) : Prop :=
  ∃ steps, steps <+: p.steps ∧ lead? p.origin steps = some place

namespace Tree

/-- At a place that changes from one tree to the other, nothing was, and a directory is now. -/
def AddsDirectoriesAt (OnTheWay : Location → Prop) (t u : Tree) : Prop :=
  ∀ place, u.at? place = t.at? place ∨
    (t.at? place = none ∧ u.at? place = some .directory ∧ OnTheWay place)

variable {t : Tree}

theorem addsDirectoriesAt_makeAlong (t : Tree) (start : Location) (done names : List String) :
    t.AddsDirectoriesAt (fun place => ∃ steps, steps <+: names ∧
      lead? start (done ++ steps) = some place) (t.makeAlong start done names).1 := by
  induction names generalizing t done with
  | nil => exact fun _ => Or.inl rfl
  | cons name rest ih =>
    -- The way after the first step is part of the way.
    have hrest : ∀ place, (∃ steps, steps <+: rest ∧
        lead? start (done ++ [name] ++ steps) = some place) →
        ∃ steps, steps <+: name :: rest ∧ lead? start (done ++ steps) = some place := by
      rintro place ⟨steps, hsteps, hlead⟩
      refine ⟨name :: steps, List.cons_prefix_cons.mpr ⟨rfl, hsteps⟩, ?_⟩
      rwa [List.append_assoc] at hlead
    rcases makeAlong_cases t start done name rest with
      ⟨place, -, -, h⟩ | ⟨place, hwalk, hnone, haccepts, h⟩ | ⟨e, h⟩
    · rw [h]
      intro other
      exact (ih t (done ++ [name]) other).imp_right
        fun ⟨hnothing, hdirectory, hway⟩ => ⟨hnothing, hdirectory, hrest other hway⟩
    · rw [h]
      intro other
      by_cases hother : other = place
      · subst hother
        have hkeeps := (addsDirectories_makeAlong (t.put other .directory) start
          (done ++ [name]) rest).keeps
        exact Or.inr ⟨hnone, hkeeps other (at?_put_self t other .directory haccepts),
          [name], by simp, lead?_of_walk hwalk⟩
      · rw [← at?_put_of_ne t place other .directory hother]
        exact (ih (t.put place .directory) (done ++ [name]) other).imp_right
          fun ⟨hnothing, hdirectory, hway⟩ => ⟨hnothing, hdirectory, hrest other hway⟩
    · rw [h]
      exact fun _ => Or.inl rfl

/-- Directories are only made on the way along the path. -/
theorem addsDirectoriesAt_makeDirectories (t : Tree) (p : Path) :
    t.AddsDirectoriesAt p.Passes (t.makeDirectories p).1 := by
  rcases makeDirectories_cases p with ⟨r, h⟩ | h
  · rw [h]
    exact fun _ => Or.inl rfl
  · rw [h]
    exact addsDirectoriesAt_makeAlong t p.origin [] p.steps

end Tree

end BenchCharts.Files

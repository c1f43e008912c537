import BenchCharts.Proofs.Files.Walking

/-!
What making directories does to a tree. It only adds directories, where nothing was before, and a
second attempt ends as the first one did and changes nothing more, also if both fail. Two trees are
akin if an attempt ends alike in both and leaves them with the same directories.
-/
namespace BenchCharts.Files

namespace Tree

/-- The listed locations in their order. -/
def places (t : Tree) : List Location := t.entries.map (·.1)

def AddsDirectories (t u : Tree) : Prop :=
  ∀ p, u.at? p = t.at? p ∨ (t.at? p = none ∧ u.at? p = some .directory)

def SameDirectories (t u : Tree) : Prop := t.Keeps u ∧ u.Keeps t

variable {t u v : Tree} {start place : Location} {done names : List String}

theorem Keeps.trans (h : t.Keeps u) (h' : u.Keeps v) : t.Keeps v := fun p hp => h' p (h p hp)

theorem SameDirectories.refl (t : Tree) : t.SameDirectories t := ⟨fun _ h => h, fun _ h => h⟩

theorem SameDirectories.symm (h : t.SameDirectories u) : u.SameDirectories t := ⟨h.2, h.1⟩

theorem SameDirectories.trans (h : t.SameDirectories u) (h' : u.SameDirectories v) :
    t.SameDirectories v :=
  ⟨h.1.trans h'.1, h'.2.trans h.2⟩

theorem AddsDirectories.refl (t : Tree) : t.AddsDirectories t := fun _ => Or.inl rfl

theorem AddsDirectories.trans (h : t.AddsDirectories u) (h' : u.AddsDirectories v) :
    t.AddsDirectories v := by
  intro p
  rcases h' p with hv | ⟨hu, hv⟩
  · rw [hv]
    exact h p
  · rcases h p with ht | ⟨-, hdir⟩
    · exact Or.inr ⟨ht ▸ hu, hv⟩
    · rw [hu] at hdir
      contradiction

theorem AddsDirectories.keeps (h : t.AddsDirectories u) : t.Keeps u := by
  intro p hp
  rcases h p with hu | ⟨hnone, -⟩
  · rw [hu]
    exact hp
  · rw [hp] at hnone
    contradiction

theorem addsDirectories_put (haccepts : t.Accepts place) (hnone : t.at? place = none) :
    t.AddsDirectories (t.put place .directory) := by
  intro p
  rw [at?_put t place p .directory haccepts]
  by_cases hp : p = place
  · subst hp
    exact Or.inr ⟨hnone, by simp⟩
  · rw [if_neg hp]
    exact Or.inl rfl

theorem places_prefix_put (t : Tree) (place : Location) (e : Entry) :
    t.places <+: (t.put place e).places := by
  unfold put places
  split
  · dsimp only
    rw [keys_putInto]
    split
    · exact List.prefix_rfl
    · exact List.prefix_append _ _
  · exact List.prefix_rfl

/-- What a step of making directories comes to. -/
theorem makeAlong_cases (t : Tree) (start : Location) (done : List String) (name : String)
    (rest : List String) :
    (∃ place, t.walk start (done ++ [name]) = .ok place ∧ t.at? place = some .directory ∧
      t.makeAlong start done (name :: rest) = t.makeAlong start (done ++ [name]) rest) ∨
    (∃ place, t.walk start (done ++ [name]) = .ok place ∧ t.at? place = none ∧
      t.Accepts place ∧ t.makeAlong start done (name :: rest) =
        (t.put place .directory).makeAlong start (done ++ [name]) rest) ∨
    ∃ e, t.makeAlong start done (name :: rest) = (t, .error e) := by
  rw [makeAlong]
  split
  · next e h => exact Or.inr (Or.inr ⟨e, rfl⟩)
  · next place hwalk =>
    split
    · next hdir => exact Or.inl ⟨place, hwalk, hdir, rfl⟩
    · exact Or.inr (Or.inr ⟨_, rfl⟩)
    · next hnone =>
      have haccepts := accepts_of_walk hwalk (by simp) (by simp [hnone])
      exact Or.inr (Or.inl ⟨place, hwalk, hnone, haccepts, rfl⟩)

theorem makeAlong_of_directory {name : String} {rest : List String}
    (hwalk : t.walk start (done ++ [name]) = .ok place) (hdir : t.at? place = some .directory) :
    t.makeAlong start done (name :: rest) = t.makeAlong start (done ++ [name]) rest := by
  rw [makeAlong]
  simp only [hwalk, hdir]

theorem addsDirectories_makeAlong (t : Tree) (start : Location) (done names : List String) :
    t.AddsDirectories (t.makeAlong start done names).1 := by
  induction names generalizing t done with
  | nil => exact .refl t
  | cons name rest ih =>
    rcases makeAlong_cases t start done name rest with
      ⟨place, -, -, h⟩ | ⟨place, -, hnone, haccepts, h⟩ | ⟨e, h⟩
    · rw [h]
      exact ih t _
    · rw [h]
      exact (addsDirectories_put haccepts hnone).trans (ih _ _)
    · rw [h]
      exact .refl t

theorem places_prefix_makeAlong :
    t.places <+: (t.makeAlong start done names).1.places := by
  induction names generalizing t done with
  | nil => exact List.prefix_rfl
  | cons name rest ih =>
    rcases makeAlong_cases t start done name rest with
      ⟨place, -, -, h⟩ | ⟨place, -, -, -, h⟩ | ⟨e, h⟩
    · rw [h]
      exact ih
    · rw [h]
      exact (places_prefix_put t place .directory).trans ih
    · simp only [h, List.prefix_rfl]

/-- A second attempt finds all that the first one made, and stops where it stopped. -/
theorem makeAlong_again :
    (t.makeAlong start done names).1.makeAlong start done names =
      t.makeAlong start done names := by
  induction names generalizing t done with
  | nil => rfl
  | cons name rest ih =>
    rcases makeAlong_cases t start done name rest with
      ⟨place, hwalk, hdir, h⟩ | ⟨place, hwalk, hnone, haccepts, h⟩ | ⟨e, h⟩
    · rw [h]
      have hkeeps := (addsDirectories_makeAlong t start (done ++ [name]) rest).keeps
      rw [makeAlong_of_directory (hkeeps.walk hwalk) (hkeeps place hdir)]
      exact ih
    · rw [h]
      have hput := (addsDirectories_put haccepts hnone).keeps
      have hkeeps := (addsDirectories_makeAlong (t.put place .directory) start (done ++ [name])
        rest).keeps
      have hdir := at?_put_self t place .directory haccepts
      rw [makeAlong_of_directory ((hput.trans hkeeps).walk hwalk) (hkeeps place hdir)]
      exact ih
    · rw [h, h]

/-- Where all directories are there, they are there in every tree that keeps them. -/
theorem makeAlong_of_keeps (hkeeps : t.Keeps u)
    (h : t.makeAlong start done names = (t, .ok ())) :
    u.makeAlong start done names = (u, .ok ()) := by
  induction names generalizing done with
  | nil => rfl
  | cons name rest ih =>
    rcases makeAlong_cases t start done name rest with
      ⟨place, hwalk, hdir, hstep⟩ | ⟨place, -, hnone, haccepts, hstep⟩ | ⟨e, hstep⟩
    · rw [hstep] at h
      rw [makeAlong_of_directory (hkeeps.walk hwalk) (hkeeps place hdir)]
      exact ih h
    · -- The directory would have been there already.
      rw [hstep] at h
      have hadds := addsDirectories_makeAlong (t.put place .directory) start (done ++ [name]) rest
      rw [h] at hadds
      have hdir : t.at? place = some .directory :=
        hadds.keeps place (at?_put_self t place .directory haccepts)
      rw [hnone] at hdir
      contradiction
    · rw [hstep] at h
      simp at h

/-- Some paths are refused or need nothing without a look at the tree. -/
theorem makeDirectories_cases (p : Path) :
    (∃ r, ∀ t : Tree, t.makeDirectories p = (t, r)) ∨
      ∀ t : Tree, t.makeDirectories p = t.makeAlong p.origin [] p.steps := by
  unfold makeDirectories
  by_cases hempty : p.text.isEmpty = true
  · left
    exact ⟨.ok (), fun t => by rw [if_pos hempty]⟩
  · by_cases hinvalid : p.text.toList.contains '\x00' = true ∨ pathLimit < p.text.utf8ByteSize
    · left
      exact ⟨.error .invalidName, fun t => by rw [if_neg hempty, if_pos hinvalid]⟩
    · right
      intro t
      rw [if_neg hempty, if_neg hinvalid]
      rfl

theorem addsDirectories_makeDirectories (t : Tree) (p : Path) :
    t.AddsDirectories (t.makeDirectories p).1 := by
  rcases makeDirectories_cases p with ⟨r, h⟩ | h
  · rw [h]
    exact .refl t
  · rw [h]
    exact addsDirectories_makeAlong t _ _ _

theorem places_prefix_makeDirectories (t : Tree) (p : Path) :
    t.places <+: (t.makeDirectories p).1.places := by
  rcases makeDirectories_cases p with ⟨r, h⟩ | h
  · simp only [h, List.prefix_rfl]
  · rw [h]
    exact places_prefix_makeAlong

theorem makeDirectories_again (t : Tree) (p : Path) :
    (t.makeDirectories p).1.makeDirectories p = t.makeDirectories p := by
  rcases makeDirectories_cases p with ⟨r, h⟩ | h
  · rw [h, h]
  · rw [h, h]
    exact makeAlong_again

theorem makeDirectories_of_keeps {p : Path} (hkeeps : t.Keeps u)
    (h : t.makeDirectories p = (t, .ok ())) : u.makeDirectories p = (u, .ok ()) := by
  rcases makeDirectories_cases p with ⟨r, hall⟩ | hall
  · rw [hall] at h
    rw [hall, (Prod.mk.inj h).2]
  · rw [hall] at h ⊢
    exact makeAlong_of_keeps hkeeps h

/-- Making the directories of a path ends alike, and leaves the same directories. -/
structure Akin (p : Path) (t u : Tree) : Prop where
  result_eq : (t.makeDirectories p).2 = (u.makeDirectories p).2
  same : (t.makeDirectories p).1.SameDirectories (u.makeDirectories p).1

namespace Akin

variable {p : Path}

theorem refl (p : Path) (t : Tree) : Akin p t t := ⟨rfl, .refl _⟩

theorem symm (h : Akin p t u) : Akin p u t := ⟨h.result_eq.symm, h.same.symm⟩

theorem trans (h : Akin p t u) (h' : Akin p u v) : Akin p t v :=
  ⟨h.result_eq.trans h'.result_eq, h.same.trans h'.same⟩

theorem makeDirectories (p : Path) (t : Tree) : Akin p t (t.makeDirectories p).1 := by
  constructor
  · rw [makeDirectories_again]
  · rw [makeDirectories_again]
    exact .refl _

/-- Once the directories are there, only changes of directories matter. -/
theorem of_sameDirectories (h : t.makeDirectories p = (t, .ok ())) (hsame : t.SameDirectories u) :
    Akin p t u := by
  have hu := makeDirectories_of_keeps hsame.1 h
  constructor
  · rw [h, hu]
  · rw [h, hu]
    exact hsame

end Akin

end Tree

end BenchCharts.Files

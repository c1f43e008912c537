import BenchCharts.Proofs.Files.Reading

/-!
Places to which paths lead. A path leads to one place, whether or not there is a way to it in a
tree, and what is read along the path is what lies at that place. So two trees that hold the same
files at all places but one are read alike along every path that leads elsewhere.
-/
namespace BenchCharts.Files

namespace Path

/-- The place that a path leads to; too long a name leads nowhere. -/
def place? (p : Path) : Option Location := lead? p.origin p.steps

def LeadsTo (p : Path) (place : Location) : Prop := p.place? = some place

instance (p : Path) (place : Location) : Decidable (p.LeadsTo place) :=
  inferInstanceAs (Decidable (_ = _))

variable {base p q : Path} {place : Location} {names : List String}

theorem leadsTo_of_locate {t : Tree} (h : t.locate p = .ok place) : p.LeadsTo place :=
  Tree.lead?_of_walk (Tree.walk_of_locate h)

/-- A path with some names joined to it one after the other. -/
def joinAll (p : Path) (names : List String) : Path := names.foldl join p

theorem names_joinAll (p : Path) (h : ∀ name ∈ names, PlainName name) :
    (p.joinAll names).origin = p.origin ∧ (p.joinAll names).names = p.names ++ names := by
  induction names generalizing p with
  | nil => simp [joinAll]
  | cons name rest ih =>
    rw [List.forall_mem_cons] at h
    obtain ⟨horigin, hnames⟩ := ih (p.join name) h.2
    refine ⟨horigin.trans (origin_join p h.1), ?_⟩
    rw [← List.singleton_append, ← List.append_assoc, ← names_join p h.1]
    exact hnames

theorem joinAll_concat (p : Path) (above : List String) (last : String) :
    p.joinAll (above ++ [last]) = (p.joinAll above).join last := by
  simp [joinAll]

theorem below_joinAll (base : Path) {above : List String} {last : String}
    (habove : ∀ name ∈ above, PlainName name) (hlast : PlainName last) :
    base.Below last (base.joinAll (above ++ [last])) := by
  obtain ⟨horigin, hnames⟩ := names_joinAll base habove
  rw [joinAll_concat]
  refine ⟨(origin_join _ hlast).trans horigin, hlast, above, ?_, habove⟩
  rw [steps_join _ hlast, hnames]

theorem steps_joinAll (base : Path) (hnames : ∀ name ∈ names, PlainName name) (hne : names ≠ []) :
    (base.joinAll names).origin = base.origin ∧
      (base.joinAll names).steps = base.names ++ names := by
  rw [← List.dropLast_concat_getLast hne] at hnames ⊢
  obtain ⟨habove, hlast⟩ := List.forall_mem_append.mp hnames
  obtain ⟨horigin, hall⟩ := names_joinAll base habove
  rw [List.forall_mem_singleton] at hlast
  rw [joinAll_concat, steps_join _ hlast, origin_join _ hlast, hall, List.append_assoc]
  exact ⟨horigin, rfl⟩

/-- Plain names lead below the place that the base leads to. -/
theorem LeadsTo.of_steps (horigin : p.origin = base.origin) (hsteps : p.steps = base.names ++ names)
    (hnames : ∀ name ∈ names, PlainName name) (h : p.LeadsTo place) :
    ∃ b, lead? base.origin base.names = some b ∧ place = b ++ names := by
  unfold LeadsTo place? at h
  rw [horigin, hsteps, lead?_append_eq_some_iff] at h
  obtain ⟨b, hb, hplace⟩ := h
  exact ⟨b, hb, lead?_plain hnames hplace⟩

theorem LeadsTo.of_joinAll (hnames : ∀ name ∈ names, PlainName name) (hne : names ≠ [])
    (h : (base.joinAll names).LeadsTo place) :
    ∃ b, lead? base.origin base.names = some b ∧ place = b ++ names := by
  obtain ⟨horigin, hsteps⟩ := steps_joinAll base hnames hne
  exact h.of_steps horigin hsteps hnames

theorem LeadsTo.of_join_pieces {directory name : String} (hdirectory : PlainName directory)
    (hname : PlainPieces name) (h : ((base.join directory).join name).LeadsTo place) :
    ∃ b, lead? base.origin base.names = some b ∧ place = b ++ directory :: pieces name := by
  obtain ⟨horigin, hsteps⟩ := steps_join_pieces (base.join directory) hname
  rw [names_join base hdirectory, List.append_assoc] at hsteps
  apply h.of_steps (horigin.trans (origin_join base hdirectory)) hsteps
  rw [List.singleton_append, List.forall_mem_cons]
  exact ⟨hdirectory, hname⟩

end Path

namespace Tree

variable {t u : Tree} {base p : Path} {place : Location} {last text : String}

/-- The trees hold the same files, except perhaps at one place. Directories may differ if the way to
the base does not depend on them. -/
structure SameBut (base : Path) (place : Location) (t u : Tree) : Prop where
  file_iff : ∀ q, q ≠ place → ∀ content,
    t.at? q = some (.file content) ↔ u.at? q = some (.file content)
  ways : t.SameDirectories u ∨ t.Steady base ∧ u.Steady base

theorem SameBut.symm (h : SameBut base place t u) : SameBut base place u t := by
  refine ⟨fun q hq content => (h.file_iff q hq content).symm, ?_⟩
  rcases h.ways with hsame | ⟨ht, hu⟩
  · exact Or.inl hsame.symm
  · exact Or.inr ⟨hu, ht⟩

/-- One file is added, or replaced by another one. -/
theorem SameBut.put (base : Path) {content : Content} (haccepts : t.Accepts place) :
    SameBut base place t (t.put place (.file content)) := by
  refine ⟨?_, Or.inl (sameDirectories_put content haccepts)⟩
  intro q hq content'
  rw [at?_put_of_ne t place q _ hq]

theorem SameBut.read_of_read (h : SameBut base place t u) (hbelow : base.Below last p)
    (hplace : ¬ p.LeadsTo place) (hread : t.read p = .ok text) : u.read p = .ok text := by
  rw [read_eq_ok_iff] at hread ⊢
  obtain ⟨q, content, hlocate, hfile, htext⟩ := hread
  have hne : q ≠ place := by
    rintro rfl
    exact hplace (Path.leadsTo_of_locate hlocate)
  have hfile' := (h.file_iff q hne content).mp hfile
  refine ⟨q, content, ?_, hfile', htext⟩
  rcases h.ways with hsame | ⟨-, hsteady⟩
  · exact hsame.1.locate hlocate
  · exact locate_back hsteady hbelow hlocate hfile'

/-- Only what leads to the place can be read differently. -/
theorem SameBut.read_iff (h : SameBut base place t u) (hbelow : base.Below last p)
    (hplace : ¬ p.LeadsTo place) : t.read p = .ok text ↔ u.read p = .ok text :=
  ⟨h.read_of_read hbelow hplace, h.symm.read_of_read hbelow hplace⟩

end Tree

end BenchCharts.Files

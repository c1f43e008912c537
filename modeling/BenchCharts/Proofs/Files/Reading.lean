import BenchCharts.Proofs.Files.Directories

/-!
Reading below a base directory while directories are made and other files are written. The text of
a file stays as it is, and no text appears that was not there, as long as making directories opens
no way up through a directory that was missing. That is so if the base has no steps upwards, or if
it can be walked to in the first place.
-/
namespace BenchCharts.Files

theorem Path.steps_ne_nil (p : Path) : p.steps ≠ [] := by
  unfold steps
  dsimp only
  split
  · simp
  · next hlast =>
    -- The last piece is a name then.
    have hne := splitSlashes_ne_nil p.text.toList
    rw [List.getLast?_eq_some_getLast hne, Option.some_inj] at hlast
    have hmem : (splitSlashes p.text.toList).getLast hne ∈
        (splitSlashes p.text.toList).filter fun piece => !piece.isEmpty := by
      rw [List.mem_filter]
      exact ⟨List.getLast_mem hne, by simpa using hlast⟩
    exact List.ne_nil_of_mem (List.mem_map_of_mem hmem)

/-- A file with a plain name, in directories with plain names below a base. -/
def Path.Below (base : Path) (last : String) (p : Path) : Prop :=
  p.origin = base.origin ∧ PlainName last ∧ ∃ above, p.steps = base.names ++ above ++ [last] ∧
    ∀ name ∈ above, PlainName name

/-- A base with plain names joined to it. -/
inductive Path.Inside (base : Path) : Path → Prop
  | base : Inside base base
  | join {p : Path} {name : String} (h : Inside base p) (hname : PlainName name) :
      Inside base (p.join name)

theorem Path.Inside.names_eq {base p : Path} (h : base.Inside p) :
    p.origin = base.origin ∧ ∃ above, p.names = base.names ++ above ∧
      ∀ name ∈ above, PlainName name := by
  induction h with
  | base => exact ⟨rfl, [], by simp, by simp⟩
  | @join q name _ hname ih =>
    obtain ⟨horigin, above, hnames, habove⟩ := ih
    refine ⟨(origin_join q hname).trans horigin, above ++ [name], ?_, ?_⟩
    · rw [names_join q hname, hnames, List.append_assoc]
    · intro other hother
      rcases List.mem_append.mp hother with hmem | hmem
      · exact habove other hmem
      · rw [List.mem_singleton.mp hmem]
        exact hname

theorem Path.Inside.below_join {base p : Path} {last : String} (h : base.Inside p)
    (hlast : PlainName last) : base.Below last (p.join last) := by
  obtain ⟨horigin, above, hnames, habove⟩ := h.names_eq
  refine ⟨(origin_join p hlast).trans horigin, hlast, above, ?_, habove⟩
  rw [steps_join p hlast, hnames]

namespace Tree

/-- The way to a base does not depend on directories that are still to be made. -/
def Steady (t : Tree) (base : Path) : Prop :=
  ".." ∉ base.names ∨ ∃ place, t.walk base.origin base.names = .ok place

variable {t u : Tree} {p base : Path} {place : Location} {last text : String}

theorem locate_cases (p : Path) :
    (∃ e, ∀ t : Tree, t.locate p = .error e) ∨
      ∀ t : Tree, t.locate p = t.walk p.origin p.steps := by
  unfold locate
  by_cases hempty : p.text.isEmpty = true
  · exact Or.inl ⟨.absent, fun t => by rw [if_pos hempty]⟩
  · by_cases hinvalid : p.text.toList.contains '\x00' = true ∨ pathLimit < p.text.utf8ByteSize
    · exact Or.inl ⟨.invalidName, fun t => by rw [if_neg hempty, if_pos hinvalid]⟩
    · right
      intro t
      rw [if_neg hempty, if_neg hinvalid]
      rfl

theorem walk_of_locate (h : t.locate p = .ok place) : t.walk p.origin p.steps = .ok place := by
  rcases locate_cases p with ⟨e, hall⟩ | hall
  · rw [hall] at h
    contradiction
  · rwa [← hall]

/-- A path that can be located in one tree is not refused in another. -/
theorem locate_of_walk (hu : u.locate p = .ok place) (h : t.walk p.origin p.steps = .ok place) :
    t.locate p = .ok place := by
  rcases locate_cases p with ⟨e, hall⟩ | hall
  · rw [hall] at hu
    contradiction
  · rwa [hall]

theorem Keeps.locate (h : t.Keeps u) (hlocate : t.locate p = .ok place) :
    u.locate p = .ok place :=
  locate_of_walk hlocate (h.walk (walk_of_locate hlocate))

theorem accepts_of_locate (h : t.locate p = .ok place) (hfree : t.at? place ≠ some .directory) :
    t.Accepts place :=
  accepts_of_walk (walk_of_locate h) p.steps_ne_nil hfree

theorem read_eq_ok_iff (t : Tree) (p : Path) (text : String) :
    t.read p = .ok text ↔ ∃ place content, t.locate p = .ok place ∧
      t.at? place = some (.file content) ∧ content.text? = some text := by
  unfold read entry
  cases hlocate : t.locate p with
  | error e => simp
  | ok place =>
    cases hentry : t.at? place with
    | none => simp [hentry]
    | some e =>
      cases e with
      | directory => simp [hentry]
      | file content =>
        cases htext : content.text? with
        | none => simp [hentry, htext]
        | some found => simp [hentry, htext]

theorem Steady.keeps (hsteady : t.Steady base) (h : t.Keeps u) : u.Steady base := by
  rcases hsteady with hdown | ⟨b, hb⟩
  · exact Or.inl hdown
  · exact Or.inr ⟨b, h.walk hb⟩

/-- The location of a file below a base ends in the name of the file. -/
theorem concat_of_below (hbelow : base.Below last p) (h : t.locate p = .ok place) :
    ∃ m, place = m ++ [last] := by
  obtain ⟨-, hlast, above, hsteps, -⟩ := hbelow
  have hwalk := walk_of_locate h
  rw [hsteps, walk_concat_eq_ok_iff] at hwalk
  obtain ⟨m, -, -, hnext⟩ := hwalk
  exact ⟨m, next?_plain hlast hnext⟩

/-- Something below a base is found wherever it is, if the way to the base does not depend on the
tree. -/
theorem locate_back (hsteady : t.Steady base) (hbelow : base.Below last p)
    (hlocate : u.locate p = .ok place) {e : Entry} (hthere : t.at? place = some e) :
    t.locate p = .ok place := by
  obtain ⟨horigin, hlast, above, hsteps, habove⟩ := hbelow
  have hdown : ".." ∉ above := fun hmem => (habove _ hmem).2.2.2 rfl
  have hwalk := walk_of_locate hlocate
  refine locate_of_walk hlocate ?_
  rw [hsteps, horigin, walk_concat_eq_ok_iff] at hwalk ⊢
  obtain ⟨m, hm, -, hnext⟩ := hwalk
  have hdir : t.at? m = some .directory := by
    rw [next?_plain hlast hnext] at hthere
    exact at?_of_below hlast.2.2.2 hthere
  refine ⟨m, ?_, hdir, hnext⟩
  rcases hsteady with hbase | ⟨b, hb⟩
  · exact walk_back (by simp [hbase, hdown]) hm hdir
  · rw [walk_append_eq_ok_iff] at hm ⊢
    obtain ⟨b', hb', hrest⟩ := hm
    have heq : b = b' := Option.some.inj ((lead?_of_walk hb).symm.trans (lead?_of_walk hb'))
    exact ⟨b, hb, walk_back hdown (heq ▸ hrest) hdir⟩

/-- Directories that are made hold no texts. -/
theorem read_iff_of_addsDirectories (hadds : t.AddsDirectories u) (hsteady : t.Steady base)
    (hbelow : base.Below last p) : t.read p = .ok text ↔ u.read p = .ok text := by
  rw [read_eq_ok_iff, read_eq_ok_iff]
  constructor
  · rintro ⟨place, content, hlocate, hfile, htext⟩
    refine ⟨place, content, hadds.keeps.locate hlocate, ?_, htext⟩
    rcases hadds place with hu | ⟨hnone, -⟩
    · rw [hu]
      exact hfile
    · rw [hfile] at hnone
      contradiction
  · rintro ⟨place, content, hlocate, hfile, htext⟩
    rcases hadds place with hu | ⟨-, hdir⟩
    · rw [hu] at hfile
      exact ⟨place, content, locate_back hsteady hbelow hlocate hfile, hfile, htext⟩
    · rw [hfile] at hdir
      simp at hdir

theorem sameDirectories_put (content : Content) (haccepts : t.Accepts place) :
    t.SameDirectories (t.put place (.file content)) := by
  constructor
  · intro q hq
    rw [at?_put t place q _ haccepts]
    split
    · next h =>
      subst h
      exact absurd hq haccepts.2
    · exact hq
  · intro q hq
    rw [at?_put t place q _ haccepts] at hq
    split at hq
    · simp at hq
    · exact hq

/-- A file with another name has no influence. -/
theorem read_iff_put {content : Content} (haccepts : t.Accepts place)
    (hbelow : base.Below last p) (hother : place.getLast? ≠ some last) :
    t.read p = .ok text ↔ (t.put place (.file content)).read p = .ok text := by
  have hsame := sameDirectories_put content haccepts
  have hat : ∀ q, t.locate p = .ok q → (t.put place (.file content)).at? q = t.at? q := by
    intro q hq
    apply at?_put_of_ne
    rintro rfl
    obtain ⟨m, rfl⟩ := concat_of_below hbelow hq
    simp at hother
  rw [read_eq_ok_iff, read_eq_ok_iff]
  constructor
  · rintro ⟨q, found, hlocate, hfile, htext⟩
    exact ⟨q, found, hsame.1.locate hlocate, (hat q hlocate).trans hfile, htext⟩
  · rintro ⟨q, found, hlocate, hfile, htext⟩
    have hq := hsame.2.locate hlocate
    exact ⟨q, found, hq, (hat q hq).symm.trans hfile, htext⟩

end Tree

end BenchCharts.Files

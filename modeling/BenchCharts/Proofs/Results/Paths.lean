import BenchCharts.Proofs.Files.Parts
import BenchCharts.Proofs.Results.Requests

/-!
Paths of records. Names may look like what templates put between them, so file names alone can
agree; paths still differ, because they differ in a part before the last one. Figures end in an
extension that no record has.
-/
namespace BenchCharts.Results

open Files (Path)

/-- The trials that drivers record. -/
def IsRecorded : TrialPhase → Configuration → Prop
  | .load, .threads _ => True
  | .run, .workload _ => True
  | _, _ => False

namespace Request

variable {r : Request} {below : List String}

/-- The last of the names has an extension of records. -/
theorem exists_extension (hplain : r.Plain) (h : r.names = .ok below) :
    ∃ last ∈ below.getLast?, ".yml".toList <:+ last.toList ∨ ".csv".toList <:+ last.toList := by
  cases r with
  | trial database phase backend configuration number =>
    obtain ⟨name, hname, rfl⟩ := names_trial_eq_ok_iff.mp h
    obtain ⟨stem, -, rfl⟩ := Layout.trialName_eq hplain.1 hplain.2 hname
    exact ⟨_, rfl, Or.inl (Path.suffix_append _ _)⟩
  | size backend transfer =>
    obtain rfl := Except.ok.inj h
    exact ⟨_, rfl, Or.inr (Path.suffix_append _ _)⟩
  | recovery database backend =>
    obtain rfl := Except.ok.inj h
    exact ⟨_, rfl, Or.inr (Path.suffix_append _ _)⟩

end Request

namespace Layout

variable {layout : Layout} {r r' : Request} {p p' : Path}

theorem parts_path (hplain : r.Plain) (h : layout.path r = .ok p) :
    ∃ below, r.names = .ok below ∧ p.parts = layout.base.parts ++ below := by
  obtain ⟨below, hbelow, rfl⟩ := path_eq_ok_iff.mp h
  exact ⟨below, hbelow, Path.parts_joinAll _ (Request.plain_names hplain hbelow)⟩

theorem parts_path_inj (hplain : r.Plain) (hplain' : r'.Plain) (h : layout.path r = .ok p)
    (h' : layout.path r' = .ok p') (hparts : p.parts = p'.parts) : r = r' := by
  obtain ⟨below, hbelow, hp⟩ := parts_path hplain h
  obtain ⟨below', hbelow', hp'⟩ := parts_path hplain' h'
  obtain rfl := List.append_cancel_left (hp.symm.trans (hparts.trans hp'))
  exact Request.names_inj hbelow hbelow'

theorem parts_ne_figurePath (hplain : r.Plain) (h : layout.path r = .ok p) (name : String) :
    p.parts ≠ (layout.figurePath (name ++ ".svg")).parts := by
  intro hparts
  have hsvg : ".svg".toList <:+ (layout.figurePath (name ++ ".svg")).text.toList :=
    (Path.suffix_append name ".svg").trans (Path.suffix_join _ _)
  obtain ⟨last, hlast, hfigure⟩ := Path.exists_last_part hsvg (by decide) (by decide)
  obtain ⟨below, hbelow, hp⟩ := parts_path hplain h
  obtain ⟨last', hlast', hrecord⟩ := Request.exists_extension hplain hbelow
  rw [Option.mem_def] at hlast hlast'
  rw [← hparts, hp, List.getLast?_append, hlast', Option.some_or, Option.some_inj] at hlast
  subst hlast
  -- Both extensions have four characters, so they would have to be one.
  rcases hrecord with hrecord | hrecord
  · have heq := (List.suffix_of_suffix_length_le hrecord hfigure (by decide)).eq_of_length
      (by decide)
    exact absurd heq (by decide)
  · have heq := (List.suffix_of_suffix_length_le hrecord hfigure (by decide)).eq_of_length
      (by decide)
    exact absurd heq (by decide)

theorem trialPath_eq_error_iff {database backend : String} {phase : TrialPhase}
    {configuration : Configuration} {number : Nat} {e : LayoutError} :
    layout.trialPath database phase backend configuration number = .error e ↔
      ¬ IsRecorded phase configuration ∧ e = .noRecords phase configuration := by
  cases phase <;> cases configuration <;>
    simp [trialPath, trialName, IsRecorded, Except.map, eq_comm]

/-- The path that a layout gives for a request. -/
inductive Gives (layout : Layout) : Request → Path → Prop
  | trial {database : String} {phase : TrialPhase} {backend : String}
      {configuration : Configuration} {number : Nat} {p : Path}
      (h : layout.trialPath database phase backend configuration number = .ok p) :
      Gives layout (.trial database phase backend configuration number) p
  | size (backend : String) (transfer : Transfer) :
      Gives layout (.size backend transfer) (layout.sizePath backend transfer)
  | recovery (database backend : String) :
      Gives layout (.recovery database backend) (layout.recoveryPath database backend)

theorem Gives.path_eq (h : layout.Gives r p) : layout.path r = .ok p := by
  cases h with
  | trial h => rw [path_trial, h]
  | size backend transfer => exact path_size layout backend transfer
  | recovery database backend => exact path_recovery layout database backend

/-- Different requests have different paths, no record has the path of a figure, and only requests
for trials that are not recorded are refused. -/
theorem paths_apart (layout : Layout) :
    (∀ r r' p p', r.Plain → r'.Plain → layout.Gives r p → layout.Gives r' p' →
      p.parts = p'.parts → r = r') ∧
    (∀ r p name, r.Plain → layout.Gives r p →
      p.parts ≠ (layout.figurePath (name ++ ".svg")).parts) ∧
    ∀ database phase backend configuration number e,
      layout.trialPath database phase backend configuration number = .error e ↔
        ¬ IsRecorded phase configuration ∧ e = .noRecords phase configuration := by
  refine ⟨?_, ?_, ?_⟩
  · intro r r' p p' hplain hplain' h h' hparts
    exact parts_path_inj hplain hplain' h.path_eq h'.path_eq hparts
  · intro r p name hplain h
    exact parts_ne_figurePath hplain h.path_eq name
  · intro database phase backend configuration number e
    exact trialPath_eq_error_iff

/-- Trials of two databases whose files have one name. -/
def sharingName (database backend : String) : Request :=
  .trial database .load backend (.threads 4) 1

theorem paths_apart_sharingName : ∃ p p' : Path,
    (Layout.mk "results").Gives (sharingName "db" "load_ext_th4_trail1") p ∧
    (Layout.mk "results").Gives (sharingName "db_load" "ext_th4_trail1") p' ∧
    p.fileName? = p'.fileName? ∧ p.parts ≠ p'.parts ∧
    ∀ name, p.parts ≠ ((Layout.mk "results").figurePath (name ++ ".svg")).parts := by
  obtain ⟨hapart, hfigures, -⟩ := paths_apart ⟨"results"⟩
  have hplain : (sharingName "db" "load_ext_th4_trail1").Plain := by decide
  have hplain' : (sharingName "db_load" "ext_th4_trail1").Plain := by decide
  refine ⟨_, _, .trial rfl, .trial rfl, by decide +kernel, ?_, ?_⟩
  · intro hparts
    have hsame := hapart _ _ _ _ hplain hplain' (.trial rfl) (.trial rfl) hparts
    exact absurd hsame (by decide)
  · intro name
    exact hfigures _ _ name hplain (.trial rfl)

end Layout

end BenchCharts.Results

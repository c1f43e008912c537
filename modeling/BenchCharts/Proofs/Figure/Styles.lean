import BenchCharts.Figure.Rendering
import BenchCharts.Proofs.Figure.Drawing

/-!
Missing styles stop a figure before it begins. Reading the data of a figure settles all styles that
its charts refer to, in the order of the configuration, so no chart is written and no directory is
made for a figure that lacks one, and no style is missed later on.
-/
namespace BenchCharts.Figure.Study

open Files (Tree)
open Style (Registry)

variable {s : Study} {t : Tree} {kind : Kind}

theorem exists_data_eq_ok_iff : (∃ d, s.data t kind = .ok d) ↔ s.Styled kind := by
  unfold Styled
  rw [← Registry.exists_lookupAll_eq_ok_iff]
  simp [data_eq_ok_iff]

theorem data_eq_error_iff (e : Style.StyleError) :
    s.data t kind = .error e ↔ s.registry.lookupAll (s.shown kind) = .error e := by
  unfold data
  split
  · next e' h => simp [h]
  · next entries h => simp [h]

theorem exists_artifacts_eq_ok (hstyled : s.Styled kind) (t : Tree) :
    ∃ artifacts, s.artifacts (s.read t kind) = .ok artifacts := by
  obtain ⟨artifacts, -, hartifacts, -, -⟩ := both_artifacts hstyled t t
  exact ⟨artifacts, hartifacts⟩

theorem writeAll_ne_style (t : Tree) (artifacts : List Artifact) (e : Style.StyleError) :
    (s.writeAll t artifacts).2 ≠ .error (.style e) := by
  induction artifacts generalizing t with
  | nil => simp [writeAll]
  | cons a rest ih =>
    unfold writeAll
    split
    · simp
    · next t' _ _ =>
      split
      · next t'' e' hrest =>
        have h := ih t'
        rw [hrest] at h
        simpa using h
      · simp

theorem render_of_styled (hstyled : s.Styled kind) (t : Tree) :
    ∃ artifacts, s.artifacts (s.read t kind) = .ok artifacts ∧
      s.render t kind = s.writeAll t artifacts := by
  obtain ⟨artifacts, hartifacts⟩ := exists_artifacts_eq_ok hstyled t
  obtain ⟨d, hd⟩ := (exists_data_eq_ok_iff (t := t)).mpr hstyled
  have hread : d = s.read t kind := ((data_eq_ok_iff s t kind d).mp hd).2
  refine ⟨artifacts, hartifacts, ?_⟩
  simp only [render, hd, hread, hartifacts]

theorem render_of_not_styled (hstyled : ¬ s.Styled kind) :
    ∃ e, ∀ t, s.render t kind = (t, .error (.style e)) := by
  cases hall : s.registry.lookupAll (s.shown kind) with
  | ok entries => exact absurd (Registry.exists_lookupAll_eq_ok_iff.mp ⟨entries, hall⟩) hstyled
  | error e =>
    refine ⟨e, ?_⟩
    intro t
    exact render_of_unknown s t kind e ((data_eq_error_iff e).mpr hall)

theorem render_ne_style {d : Data} (hd : s.data t kind = .ok d) (e : Style.StyleError) :
    (s.render t kind).2 ≠ .error (.style e) := by
  obtain ⟨artifacts, -, hrender⟩ := render_of_styled (exists_data_eq_ok_iff.mp ⟨d, hd⟩) t
  rw [hrender]
  exact writeAll_ne_style t artifacts e

/-- The styles of a figure are settled first, whatever the tree holds. -/
theorem styles_settled (s : Study) (t : Tree) (kind : Kind) :
    ((∃ d, s.data t kind = .ok d) ↔ ∀ id ∈ s.shown kind, s.registry.Knows id) ∧
    (∀ e, s.data t kind = .error e ↔ ∃ before id after, s.shown kind = before ++ id :: after ∧
      (∀ b ∈ before, s.registry.Knows b) ∧ ¬ s.registry.Knows id ∧ e = .unknownBackend id) ∧
    (∀ e, s.data t kind = .error e → s.render t kind = (t, .error (.style e))) ∧
    ∀ d, s.data t kind = .ok d → ∀ e, (s.render t kind).2 ≠ .error (.style e) := by
  refine ⟨exists_data_eq_ok_iff, ?_, render_of_unknown s t kind, ?_⟩
  · intro e
    rw [data_eq_error_iff]
    exact Registry.lookupAll_eq_error_iff e
  · intro d hd e
    exact render_ne_style hd e

/-- Without an entry for one backend its lines of writes cannot be drawn. Reads of the same backend
can, in a style of their own. -/
theorem styles_settled_without_entry :
    let s : Study := ⟨⟨⟨"results"⟩⟩, .standard,
      ⟨Registry.standard.entries.filter fun e => e.id != ⟨"cephfs"⟩⟩, Chart.elements⟩
    s.data .empty .rawWrite = .error (.unknownBackend ⟨"cephfs"⟩) ∧
      s.render .empty .rawWrite = (.empty, .error (.style (.unknownBackend ⟨"cephfs"⟩))) ∧
      ∃ d, s.data .empty .rawRead = .ok d ∧
        ∀ e, (s.render .empty .rawRead).2 ≠ .error (.style e) := by
  intro s
  obtain ⟨-, hmissing, hrender, -⟩ := styles_settled s .empty .rawWrite
  obtain ⟨hknown, -, -, hdrawn⟩ := styles_settled s .empty .rawRead
  have herror : s.data .empty .rawWrite = .error (.unknownBackend ⟨"cephfs"⟩) :=
    (hmissing _).mpr ⟨[⟨"sync"⟩], ⟨"cephfs"⟩, [⟨"sync_ncl"⟩], rfl, by decide, by decide, rfl⟩
  obtain ⟨d, hd⟩ := hknown.mpr (by decide)
  exact ⟨herror, hrender _ herror, d, hd, hdrawn d hd⟩

end BenchCharts.Figure.Study

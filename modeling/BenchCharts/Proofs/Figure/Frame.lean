import BenchCharts.CommandLine.BenchFigures
import BenchCharts.Proofs.Figure.Independence
import BenchCharts.Proofs.Figure.Outputs
import BenchCharts.Proofs.Files.Ways

/-!
What drawing a figure leaves alone. However it ends, only files directly in the directory of figures
change, and only those with names of the figure; directories are made at most on the way there. A
chart that cannot be drawn changes nothing, so when a figure stops at one, the tree is as the charts
before it left it.
-/
namespace BenchCharts.Figure.Study

open CommandLine.BenchFigures (Options)
open Files (Content Location Path PlainName Tree)

/-- What drawing a figure does at a place. -/
inductive Change (s : Study) (kind : Kind) (t u : Tree) (place : Location) : Prop
  | nothing (hkept : u.at? place = t.at? place)
  | directory (hnone : t.at? place = none) (hdirectory : u.at? place = some .directory)
      (hway : s.layout.figureDirectory.Passes place)
  | file {directory : Location} {name text : String} (hname : name ∈ s.fileNames kind)
      (hdirectory : s.layout.figureDirectory.LeadsTo directory)
      (hpath : (s.layout.figurePath name).LeadsTo place) (hplace : place = directory ++ [name])
      (hfree : t.at? place ≠ some .directory) (htext : u.at? place = some (.file (.text text)))

variable {s : Study} {kind : Kind} {t u v : Tree} {place : Location}

namespace Change

theorem trans (h : Change s kind t u place) (h' : Change s kind u v place) :
    Change s kind t v place := by
  cases h with
  | nothing hkept =>
    cases h' with
    | nothing hkept' => exact .nothing (hkept'.trans hkept)
    | directory hnone hdirectory hway => exact .directory (hkept ▸ hnone) hdirectory hway
    | file hname hdirectory hpath hplace hfree htext =>
      exact .file hname hdirectory hpath hplace (hkept ▸ hfree) htext
  | directory hnone hdirectory hway =>
    cases h' with
    | nothing hkept => exact .directory hnone (hkept.trans hdirectory) hway
    | directory hnone' => rw [hdirectory] at hnone'; contradiction
    | file _ _ _ _ hfree => exact absurd hdirectory hfree
  | file hname hdirectory hpath hplace hfree htext =>
    cases h' with
    | nothing hkept => exact .file hname hdirectory hpath hplace hfree (hkept.trans htext)
    | directory hnone => rw [htext] at hnone; contradiction
    | file _ _ _ _ _ htext' => exact .file hname hdirectory hpath hplace hfree htext'

theorem of_addsDirectories (h : t.AddsDirectoriesAt s.layout.figureDirectory.Passes u) :
    Change s kind t u place := by
  rcases h place with hkept | ⟨hnone, hdirectory, hway⟩
  · exact .nothing hkept
  · exact .directory hnone hdirectory hway

/-- Files outside the directory of figures stay as they are, and none appear there. -/
theorem file_iff (h : Change s kind t u place)
    (houtside : ∀ directory, s.layout.figureDirectory.LeadsTo directory → ¬ directory <+: place)
    (content : Content) :
    t.at? place = some (.file content) ↔ u.at? place = some (.file content) := by
  cases h with
  | nothing hkept => rw [hkept]
  | directory hnone hdirectory => simp [hnone, hdirectory]
  | file _ hdirectory _ hplace =>
    refine absurd ?_ (houtside _ hdirectory)
    rw [hplace]
    exact List.prefix_append _ _

end Change

/-- A plain name in the directory of figures. -/
theorem leadsTo_figurePath {name : String} (hname : PlainName name)
    (h : (s.layout.figurePath name).LeadsTo place) :
    ∃ directory, s.layout.figureDirectory.LeadsTo directory ∧ place = directory ++ [name] := by
  unfold Results.Layout.figurePath Path.LeadsTo Path.place? at h
  rw [Path.steps_join _ hname, Path.origin_join _ hname,
    Files.lead?_append_eq_some_iff] at h
  obtain ⟨directory, hdirectory, hplace⟩ := h
  have hfig : PlainName "fig" := by decide
  refine ⟨directory, ?_, Files.lead?_plain (by simpa using hname) hplace⟩
  unfold Results.Layout.figureDirectory Path.LeadsTo Path.place? at *
  rwa [Path.steps_join _ hfig, ← Path.names_join _ hfig]

theorem change_write (hdatabases : ∀ database ∈ s.databases, '/' ∉ database.toList)
    {a : Artifact} (h : a.name ∈ s.fileNames kind) (t : Tree) :
    Change s kind t (s.write t a).1 place := by
  have hname := plainName_of_mem_fileNames hdatabases h
  have hparent : (s.outputPath a).parent? = some s.layout.figureDirectory :=
    Path.parent?_join_join s.layout.base (by decide) hname
  have hmade : Change s kind t (t.makeDirectories s.layout.figureDirectory).1 place :=
    .of_addsDirectories (Tree.addsDirectoriesAt_makeDirectories t _)
  unfold write Chart.writeDrawing
  split
  · exact .nothing rfl
  · next elements _ =>
    rcases Chart.writing_cases hparent (.refl _ t) (Chart.document a.size elements)
        (Chart.document a.size elements) with
      ⟨e, hwritten, -⟩ | ⟨q, -, hlocate, haccepts, -, hwritten, -⟩
    · rw [hwritten]
      exact hmade
    · rw [hwritten]
      refine hmade.trans ?_
      by_cases hplace : place = q
      · subst hplace
        have hpath : (s.outputPath a).LeadsTo place := Path.leadsTo_of_locate hlocate
        obtain ⟨directory, hdirectory, hbelow⟩ := leadsTo_figurePath hname hpath
        exact .file h hdirectory hpath hbelow haccepts.2 (Tree.at?_put_self _ _ _ haccepts)
      · exact .nothing (Tree.at?_put_of_ne _ _ _ _ hplace)

theorem change_writeAll (hdatabases : ∀ database ∈ s.databases, '/' ∉ database.toList)
    {artifacts : List Artifact} (h : ∀ a ∈ artifacts, a.name ∈ s.fileNames kind) (t : Tree) :
    Change s kind t (s.writeAll t artifacts).1 place := by
  induction artifacts generalizing t with
  | nil => exact .nothing rfl
  | cons a rest ih =>
    rw [List.forall_mem_cons] at h
    have hwrite : Change s kind t _ place := change_write hdatabases h.1 t
    unfold writeAll
    split
    · next t' e hwritten =>
      rw [hwritten] at hwrite
      exact hwrite
    · next t' _ hwritten =>
      rw [hwritten] at hwrite
      have hrest := ih h.2 t'
      split
      · next t'' e hall =>
        rw [hall] at hrest
        exact hwrite.trans hrest
      · next t'' paths hall =>
        rw [hall] at hrest
        exact hwrite.trans hrest

/-- A figure whose styles are not all there changes nothing; any other one is written chart by
chart. -/
theorem render_cases (s : Study) (t : Tree) (kind : Kind) :
    (∃ e, s.render t kind = (t, .error (.style e))) ∨
      ∃ artifacts, artifacts.map (·.name) = s.fileNames kind ∧
        s.render t kind = s.writeAll t artifacts := by
  unfold render
  split
  · next e _ => exact Or.inl ⟨e, rfl⟩
  · next d hd =>
    split
    · next e _ => exact Or.inl ⟨e, rfl⟩
    · next artifacts hartifacts =>
      obtain ⟨-, rfl⟩ := (data_eq_ok_iff s t kind d).mp hd
      exact Or.inr ⟨artifacts, names_artifacts hartifacts, rfl⟩

theorem change_render (hdatabases : ∀ database ∈ s.databases, '/' ∉ database.toList) (t : Tree)
    (kind : Kind) (place : Location) : Change s kind t (s.render t kind).1 place := by
  rcases render_cases s t kind with ⟨e, he⟩ | ⟨artifacts, hnames, hrender⟩
  · rw [he]
    exact .nothing rfl
  · rw [hrender]
    refine change_writeAll hdatabases ?_ t
    intro a ha
    rw [← hnames]
    exact List.mem_map_of_mem ha

/-! ## A chart that cannot be drawn -/

/-- A chart that cannot be drawn changes nothing. -/
theorem tree_writeDrawing_of_undrawable {path : Path} {size : Canvas.CanvasSize}
    {drawing : Except Chart.MeasureError (List Canvas.Element)} {e : Chart.MeasureError}
    (h : (Chart.writeDrawing t path size drawing).2 = .error (.undrawable e)) :
    (Chart.writeDrawing t path size drawing).1 = t := by
  rw [writeDrawing_undrawable_iff] at h
  rw [h]
  rfl

/-- When a chart cannot be drawn, exactly those before it were written. -/
theorem documents_of_undrawable {artifacts : List Artifact} {e : Chart.MeasureError}
    (h : s.writeAll t artifacts = (u, .error (.file (.undrawable e)))) :
    ∃ drawn failed rest, artifacts = drawn ++ failed :: rest ∧
      ∃ documents, Chart.Written t documents u ∧ documents.map (·.1) = drawn.map s.outputPath := by
  induction artifacts generalizing t with
  | nil => simp [writeAll] at h
  | cons a rest ih =>
    unfold writeAll at h
    split at h
    · next t' cause hwritten =>
      obtain ⟨rfl, hcause⟩ := Prod.mk.inj h
      obtain rfl := RenderError.file.inj (Except.error.inj hcause)
      have htree : (s.write t a).1 = t :=
        tree_writeDrawing_of_undrawable (congrArg Prod.snd hwritten)
      rw [hwritten] at htree
      obtain rfl : t' = t := htree
      exact ⟨[], a, rest, rfl, [], .nil t', rfl⟩
    · next t' _ hwritten =>
      split at h
      · next t'' cause hall =>
        obtain ⟨rfl, hcause⟩ := Prod.mk.inj h
        rw [hcause] at hall
        obtain ⟨text, htext⟩ := exists_text_of_write hwritten
        obtain ⟨drawn, failed, more, rfl, documents, hdocuments, hpaths⟩ := ih hall
        exact ⟨a :: drawn, failed, more, rfl, (s.outputPath a, text) :: documents,
          .cons htext hdocuments, by rw [List.map_cons, hpaths, List.map_cons]⟩
      · simp at h

/-- A figure that stops at a chart has written the charts before it, and left nothing of it. -/
theorem documents_of_render_undrawable {e : Chart.MeasureError}
    (h : (s.render t kind).2 = .error (.file (.undrawable e))) :
    ∃ drawn failed rest, s.fileNames kind = drawn ++ failed :: rest ∧
      ∃ documents, Chart.Written t documents (s.render t kind).1 ∧
        documents.map (·.1) = drawn.map s.layout.figurePath := by
  rcases render_cases s t kind with ⟨e, he⟩ | ⟨artifacts, hnames, hrender⟩
  · simp [he] at h
  · obtain ⟨drawn, failed, rest, rfl, documents, hdocuments, hpaths⟩ :=
      documents_of_undrawable (Prod.ext rfl (hrender ▸ h))
    refine ⟨drawn.map (·.name), failed.name, rest.map (·.name), by simp [← hnames], documents,
      hrender ▸ hdocuments, ?_⟩
    rw [hpaths, List.map_map]
    rfl

/-! ## The frame -/

theorem text_of_written {documents : List (Path × String)} (h : Chart.Written t documents u)
    {text : String} (hfile : t.at? place = some (.file (.text text))) :
    ∃ text', u.at? place = some (.file (.text text')) := by
  induction h generalizing text with
  | nil t => exact ⟨text, hfile⟩
  | cons hfirst _ ih =>
    obtain ⟨q, -, htext, -, hothers⟩ := Chart.exists_place_of_writeDocument hfirst
    by_cases hplace : place = q
    · exact ih (hplace ▸ htext)
    · exact ih (hothers place hplace _ hfile)

/-- Where a document was written, there is a text in the end. -/
theorem exists_text_of_written {documents : List (Path × String)}
    (h : Chart.Written t documents u) : ∀ d ∈ documents, ∃ place text, d.1.LeadsTo place ∧
      u.at? place = some (.file (.text text)) := by
  induction h with
  | nil t => simp
  | cons hfirst hrest ih =>
    rw [List.forall_mem_cons]
    refine ⟨?_, ih⟩
    obtain ⟨place, hlocate, htext, -, -⟩ := Chart.exists_place_of_writeDocument hfirst
    obtain ⟨text', htext'⟩ := text_of_written hrest htext
    exact ⟨place, text', Path.leadsTo_of_locate hlocate, htext'⟩

/-- A summary is printed, and changes nothing. -/
theorem tree_summary (t : Tree) (o : Options) (h : o.command = .summary kind) :
    (CommandLine.BenchFigures.runOptions t o).tree = t := by
  unfold CommandLine.BenchFigures.runOptions
  split
  · rfl
  · rw [if_neg (by simp [h])]
    split
    · rfl
    · rw [h]
      unfold CommandLine.BenchFigures.perform
      dsimp only
      split <;> rfl

/-- Drawing a figure changes files only directly in the directory of figures: on success exactly the
files that it lists, and for a chart that cannot be drawn none. -/
theorem drawing_framed (s : Study) (hdatabases : ∀ database ∈ s.databases, '/' ∉ database.toList)
    (t : Tree) (kind : Kind) :
    let u := (s.render t kind).1
    (∀ place, Change s kind t u place) ∧
    (∀ place content,
      (∀ directory, s.layout.figureDirectory.LeadsTo directory → ¬ directory <+: place) →
        (t.at? place = some (.file content) ↔ u.at? place = some (.file content))) ∧
    (∀ paths, (s.render t kind).2 = .ok paths →
      paths = (s.fileNames kind).map s.layout.figurePath ∧
      (∃ documents, Chart.Written t documents u ∧ documents.map (·.1) = paths) ∧
      (∀ path ∈ paths, ∃ place text, path.LeadsTo place ∧
        u.at? place = some (.file (.text text))) ∧
      ∀ place, u.at? place ≠ t.at? place →
        (t.at? place = none ∧ u.at? place = some .directory) ∨
          ∃ path ∈ paths, path.LeadsTo place) ∧
    (∀ e, (s.render t kind).2 = .error (.file (.undrawable e)) →
      ∃ drawn failed rest, s.fileNames kind = drawn ++ failed :: rest ∧
        ∃ documents, Chart.Written t documents u ∧
          documents.map (·.1) = drawn.map s.layout.figurePath) ∧
    (∀ (c : Chart) path size pen e,
      (c.write t path size pen).2 = .error (.undrawable e) →
        (c.write t path size pen).1 = t) ∧
    ∀ o : Options, o.command = .summary kind →
      (CommandLine.BenchFigures.runOptions t o).tree = t := by
  intro u
  have hchange := change_render hdatabases t kind
  refine ⟨hchange, fun place content houtside => (hchange place).file_iff houtside content, ?_,
    fun e => documents_of_render_undrawable, fun c path size pen e =>
      tree_writeDrawing_of_undrawable,
    tree_summary t⟩
  intro paths hpaths
  obtain ⟨hnames, documents, hdocuments, hmap⟩ :=
    documents_render (Prod.ext rfl hpaths : s.render t kind = (u, .ok paths))
  refine ⟨hnames, ⟨documents, hdocuments, hmap⟩, ?_, ?_⟩
  · intro path hpath
    obtain ⟨d, hd, rfl⟩ := List.mem_map.mp (hmap ▸ hpath)
    exact exists_text_of_written hdocuments d hd
  · intro place hplace
    cases hchange place with
    | nothing hkept => contradiction
    | directory hnone hdirectory _ => exact Or.inl ⟨hnone, hdirectory⟩
    | file hname _ hpath => exact Or.inr ⟨_, hnames ▸ List.mem_map_of_mem hname, hpath⟩

/-- Names of databases without a separator need not be plain, and a file beside the directory of
figures stays. -/
theorem drawing_framed_odd_names :
    let s := unmeasured Chart.unlimited "sqlite" ["redis", "..", ""]
    let t := Tree.empty.plant ["results", "notes.txt"] (.file (.text "first run"))
    let paths : List Path :=
      ["results/fig/redis_ycsb.svg", "results/fig/.._ycsb.svg", "results/fig/_ycsb.svg"]
    (∀ database ∈ s.databases, '/' ∉ database.toList) ∧
    (s.render t .ycsb).2 = .ok paths ∧
    (s.render t .ycsb).1.at? ["results", "notes.txt"] = some (.file (.text "first run")) ∧
    ∀ path ∈ paths, ∃ place text, path.LeadsTo place ∧
      (s.render t .ycsb).1.at? place = some (.file (.text text)) := by
  intro s t paths
  have hdatabases : ∀ database ∈ s.databases, '/' ∉ database.toList := by decide +kernel
  have hpaths : (s.render t .ycsb).2 = .ok paths := by decide +kernel
  obtain ⟨-, houtside, hsuccess, -⟩ := drawing_framed s hdatabases t .ycsb
  refine ⟨hdatabases, hpaths, ?_, (hsuccess paths hpaths).2.2.1⟩
  refine (houtside ["results", "notes.txt"] (.text "first run") ?_).mp (by decide +kernel)
  intro directory hdirectory
  obtain rfl : ["results", "fig"] = directory := by
    have hplace : s.layout.figureDirectory.LeadsTo ["results", "fig"] := by decide +kernel
    exact Option.some.inj (hplace.symm.trans hdirectory)
  decide

end BenchCharts.Figure.Study

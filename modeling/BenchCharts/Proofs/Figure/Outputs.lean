import BenchCharts.Proofs.Chart.Outputs
import BenchCharts.Proofs.Figure.Runs

/-!
The files of all figures. They are named for databases and for what is shown of them, so two charts
share a file if and only if the names of their databases do not tell them apart. Otherwise each
chart is there in the end as it was written.
-/
namespace BenchCharts.Figure

open Files (Path Tree)

/-- The letters at the end of a name, the last one first. -/
def ending (name : String) : List Char := name.toList.reverse.take 6

theorem ending_append (database : String) {suffix : String} (h : 6 ≤ suffix.toList.length) :
    ending (database ++ suffix) = ending suffix := by
  unfold ending
  rw [String.toList_append, List.reverse_append, List.take_append_of_le_length]
  rwa [List.length_reverse]

namespace Study

variable {s : Study} {t u : Tree} {kind : Kind}

/-- The files listed by a run that was not broken off. -/
def reported (run : Except Chart.MeasureError (List Result)) : List Path :=
  (run.toOption.getD []).flatMap fun result => result.2.toOption.getD []

/-- The run was not broken off, and all figures were drawn. -/
def AllDrawn (run : Except Chart.MeasureError (List Result)) : Prop :=
  ∃ results, run = .ok results ∧ ∀ result ∈ results, ∃ paths, result.2 = .ok paths

instance (result : Result) : Decidable (∃ paths, result.2 = .ok paths) :=
  decidable_of_iff (result.2.toOption.isSome = true) (by
    rw [Option.isSome_iff_exists]
    simp only [toOption_eq_some_iff])

instance (run : Except Chart.MeasureError (List Result)) : Decidable (AllDrawn run) :=
  match run with
  | .error _ => isFalse (by simp [AllDrawn])
  | .ok results =>
      decidable_of_iff (∀ result ∈ results, ∃ paths, result.2 = .ok paths) (by simp [AllDrawn])

/-- The chart of a figure with a single one has its name whatever is drawn. -/
theorem names_singleton {α : Type} {x : Except Style.StyleError α} {chart : α → Artifact}
    {drawn : List Artifact} (h : (x >>= fun v => pure (chart v)).map (fun a => [a]) = .ok drawn)
    {name : String} (hname : ∀ v, (chart v).name = name) :
    drawn.map (·.name) = [name] := by
  obtain ⟨a, ha, rfl⟩ := (map_eq_ok_iff _).mp h
  obtain ⟨v, -, rfl⟩ := (bind_pure_eq_ok_iff _).mp ha
  rw [List.map_singleton, hname]

theorem name_insertOnlyChart {d : DatabaseSeries} {ranges : Config.PanelRanges} {a : Artifact}
    (h : s.insertOnlyChart d ranges = .ok a) : a.name = d.database ++ "_lattput.svg" := by
  obtain ⟨lines, -, rfl⟩ := (bind_pure_eq_ok_iff _).mp h
  rfl

theorem names_insertOnly {drawn : List Artifact}
    (h : s.artifacts (s.read t .insertOnly) = .ok drawn) :
    drawn.map (·.name) = s.fileNames .insertOnly := by
  change s.insertOnlyCharts (s.config.insertOnly.databases.keys.map (s.insertOnlySeries t)) =
    .ok drawn at h
  rw [insertOnlyCharts_map s _ (s.insertOnlySeries t) id fun _ => rfl, List.mapM_map] at h
  rw [map_of_mapM h (k := fun panel => panel.1 ++ "_lattput.svg")
    fun panel a ha => name_insertOnlyChart ha, fileNames]
  conv => rhs; rw [← panels_map_fst s.config.insertOnly.databases]
  rw [List.map_map]
  rfl

/-- A figure has the files of its names, in their order. -/
theorem names_artifacts {drawn : List Artifact} (h : s.artifacts (s.read t kind) = .ok drawn) :
    drawn.map (·.name) = s.fileNames kind := by
  cases kind with
  | insertOnly => exact names_insertOnly h
  | sqliteInsert =>
    unfold artifacts read sqliteInsertChart at h
    dsimp only at h
    exact names_singleton h fun _ => rfl
  | ycsb =>
    change s.ycsbCharts (s.config.ycsb.databases.map fun d => s.ycsbSeries t d.database) =
      .ok drawn at h
    unfold ycsbCharts at h
    rw [← List.map_prod_right_eq_zip, List.mapM_map] at h
    refine map_of_mapM h ?_
    intro d a ha
    obtain ⟨series, -, rfl⟩ := (bind_pure_eq_ok_iff _).mp ha
    rfl
  | rawWrite =>
    unfold artifacts read rawWriteChart at h
    dsimp only at h
    exact names_singleton h fun _ => rfl
  | rawRead =>
    unfold artifacts read rawReadChart at h
    dsimp only at h
    exact names_singleton h fun _ => rfl
  | recovery =>
    unfold artifacts read recoveryChart at h
    dsimp only at h
    exact names_singleton h fun _ => rfl

/-- If a chart is a file, a document was written there. -/
theorem exists_text_of_write {a : Artifact} (h : s.write t a = (u, .ok ())) :
    ∃ text, Chart.writeDocument t (s.outputPath a) text = (u, .ok ()) := by
  unfold write Chart.writeDrawing at h
  split at h
  · simp at h
  · exact ⟨_, h⟩

theorem documents_writeAll {drawn : List Artifact} {paths : List Path}
    (h : s.writeAll t drawn = (u, .ok paths)) :
    paths = drawn.map s.outputPath ∧
      ∃ documents, Chart.Written t documents u ∧ documents.map (·.1) = paths := by
  induction drawn generalizing t paths with
  | nil =>
    obtain ⟨rfl, hpaths⟩ := Prod.mk.inj h
    obtain rfl := Except.ok.inj hpaths
    exact ⟨rfl, [], .nil t, rfl⟩
  | cons a rest ih =>
    unfold writeAll at h
    split at h
    · simp at h
    · next t' _ hwritten =>
      split at h
      · simp at h
      · next t'' more hall =>
        obtain ⟨rfl, hpaths⟩ := Prod.mk.inj h
        obtain rfl := Except.ok.inj hpaths
        obtain ⟨text, htext⟩ := exists_text_of_write hwritten
        obtain ⟨hmore, documents, hdocuments, hmap⟩ := ih hall
        refine ⟨by rw [List.map_cons, hmore], (s.outputPath a, text) :: documents,
          .cons htext hdocuments, by rw [List.map_cons, hmap]⟩

theorem documents_render {paths : List Path} (h : s.render t kind = (u, .ok paths)) :
    paths = (s.fileNames kind).map s.layout.figurePath ∧
      ∃ documents, Chart.Written t documents u ∧ documents.map (·.1) = paths := by
  unfold render at h
  split at h
  · simp at h
  · next d hd =>
    split at h
    · simp at h
    · next drawn hdrawn =>
      obtain ⟨-, rfl⟩ := (data_eq_ok_iff s t kind d).mp hd
      obtain ⟨hpaths, hdocuments⟩ := documents_writeAll h
      refine ⟨?_, hdocuments⟩
      rw [hpaths, ← names_artifacts hdrawn, List.map_map]
      rfl

/-- Figures that were all drawn list their files in order, and have written a document to each. -/
theorem documents_renderEach {kinds : List Kind} (h : AllDrawn (s.renderEach t kinds).2) :
    reported (s.renderEach t kinds).2 =
        (kinds.flatMap s.fileNames).map s.layout.figurePath ∧
      ∃ documents, Chart.Written t documents (s.renderEach t kinds).1 ∧
        documents.map (·.1) = reported (s.renderEach t kinds).2 := by
  induction kinds generalizing t with
  | nil => exact ⟨rfl, [], .nil t, rfl⟩
  | cons kind rest ih =>
    obtain ⟨results, hresults, hall⟩ := h
    obtain ⟨hdrawn, more, hmore, rfl⟩ := renderEach_cons_of_ok hresults
    rw [List.forall_mem_cons] at hall
    obtain ⟨⟨paths, hpaths⟩, hrest⟩ := hall
    dsimp only at hpaths
    obtain ⟨hnames, documents, hdocuments, hmap⟩ :=
      documents_render (Prod.ext rfl hpaths : s.render t kind = ((s.render t kind).1, .ok paths))
    obtain ⟨hothers, written, hwritten, hmap'⟩ := ih ⟨more, hmore, hrest⟩
    have hreported : reported (s.renderEach t (kind :: rest)).2 =
        paths ++ reported (s.renderEach (s.render t kind).1 rest).2 := by
      rw [hresults, hmore, hpaths]
      rfl
    refine ⟨?_, documents ++ written, ?_, ?_⟩
    · rw [hreported, hothers, hnames, List.flatMap_cons, List.map_append]
    · rw [renderEach_of_not_breaksOff hdrawn]
      exact hdocuments.append hwritten
    · rw [hreported, List.map_append, hmap, hmap']

theorem reported_renderAll (h : AllDrawn (s.renderAll t).2) :
    reported (s.renderAll t).2 = (Kind.all.flatMap s.fileNames).map s.layout.figurePath :=
  (documents_renderEach h).1

theorem all_fileNames (s : Study) : Kind.all.flatMap s.fileNames =
    ((s.config.insertOnly.databases.keys ++ [s.config.sqliteInsert.database]).map
        (· ++ "_lattput.svg") ++
      (s.config.ycsb.databases.map (·.database)).map (· ++ "_ycsb.svg")) ++
      ["write_lat.svg", "read_lat.svg", "recovery-time.svg"] := by
  simp [Kind.all, Kind.named, fileNames]

/-- The names of the files are different if and only if the databases are, for each purpose. -/
theorem nodup_fileNames_iff (hkeys : s.config.insertOnly.databases.Ascending)
    (hsqlite : s.config.sqliteInsert.database ∉ s.config.insertOnly.databases.keys) :
    (Kind.all.flatMap s.fileNames).Nodup ↔
      (s.config.ycsb.databases.map (·.database)).Nodup := by
  have hlattput : ∀ x ∈ (s.config.insertOnly.databases.keys ++
      [s.config.sqliteInsert.database]).map (· ++ "_lattput.svg"),
      ending x = ['g', 'v', 's', '.', 't', 'u'] := by
    intro x hx
    obtain ⟨database, -, rfl⟩ := List.mem_map.mp hx
    exact ending_append database (by decide)
  have hycsb : ∀ x ∈ (s.config.ycsb.databases.map (·.database)).map (· ++ "_ycsb.svg"),
      ending x = ['g', 'v', 's', '.', 'b', 's'] := by
    intro x hx
    obtain ⟨database, -, rfl⟩ := List.mem_map.mp hx
    exact ending_append database (by decide)
  have hfixed : ∀ x ∈ ["write_lat.svg", "read_lat.svg", "recovery-time.svg"],
      ending x ≠ ['g', 'v', 's', '.', 't', 'u'] ∧ ending x ≠ ['g', 'v', 's', '.', 'b', 's'] := by
    decide
  have happend : ∀ suffix : String, Function.Injective (· ++ suffix : String → String) :=
    fun suffix _ _ h => String.append_left_inj _ |>.mp h
  rw [all_fileNames, List.nodup_append, List.nodup_append, List.nodup_map_iff (happend _),
    List.nodup_map_iff (happend _)]
  constructor
  · rintro ⟨⟨-, h, -⟩, -, -⟩
    exact h
  · intro h
    have hdatabases : (s.config.insertOnly.databases.keys ++
        [s.config.sqliteInsert.database]).Nodup := by
      rw [← List.concat_eq_append]
      exact List.Nodup.concat hsqlite (hkeys.imp fun {a b} hlt => ne_of_lt hlt)
    refine ⟨⟨hdatabases, h, ?_⟩, by decide, ?_⟩
    · rintro a ha b hb rfl
      have hends := (hlattput a ha).symm.trans (hycsb a hb)
      simp at hends
    · rintro a ha b hb rfl
      rcases List.mem_append.mp ha with ha | ha
      · exact (hfixed a hb).1 (hlattput a ha)
      · exact (hfixed a hb).2 (hycsb a ha)

/-- Different names of files lead to different places. -/
theorem name_eq_of_place? {a b : String} (ha : Path.PlainPieces a) (hb : Path.PlainPieces b)
    (hsome : (s.layout.figurePath a).place?.isSome = true)
    (h : (s.layout.figurePath a).place? = (s.layout.figurePath b).place?) : a = b := by
  obtain ⟨place, hplace⟩ := Option.isSome_iff_exists.mp hsome
  obtain ⟨m, hm, rfl⟩ := Path.LeadsTo.of_join_pieces (by decide) ha hplace
  obtain ⟨m', hm', heq⟩ := Path.LeadsTo.of_join_pieces (by decide) hb (h.symm.trans hplace)
  obtain rfl := Option.some.inj (hm.symm.trans hm')
  exact Path.pieces_injective (List.cons.inj (List.append_cancel_left heq)).2

/-- If all figures are drawn, their files are different ones as far as the databases are, and none
is written over another. -/
theorem outputs_apart (s : Study) (t : Tree) (hkeys : s.config.insertOnly.databases.Ascending)
    (hsqlite : s.config.sqliteInsert.database ∉ s.config.insertOnly.databases.keys)
    (hnames : ∀ kind ∈ Kind.all, ∀ name ∈ s.fileNames kind, Path.PlainPieces name)
    (hall : AllDrawn (s.renderAll t).2) :
    ((reported (s.renderAll t).2).Nodup ↔ (s.config.ycsb.databases.map (·.database)).Nodup) ∧
    ∃ documents, Chart.Written t documents (s.renderAll t).1 ∧
      documents.map (·.1) = reported (s.renderAll t).2 ∧
      ((s.config.ycsb.databases.map (·.database)).Nodup →
        ((reported (s.renderAll t).2).map Path.place?).Nodup ∧
        (∀ p ∈ reported (s.renderAll t).2, p.place?.isSome = true) ∧
        ∀ d ∈ documents, (s.renderAll t).1.read d.1 = .ok d.2) := by
  obtain ⟨-, documents, hdocuments, hmap⟩ := documents_renderEach hall
  change documents.map (·.1) = reported (s.renderAll t).2 at hmap
  have hsome : ∀ p ∈ reported (s.renderAll t).2, p.place?.isSome = true := by
    intro p hp
    rw [← hmap] at hp
    obtain ⟨d, hd, rfl⟩ := List.mem_map.mp hp
    exact hdocuments.isSome_place? d hd
  have hplaces : (s.config.ycsb.databases.map (·.database)).Nodup →
      ((reported (s.renderAll t).2).map Path.place?).Nodup := by
    intro hnodup
    rw [reported_renderAll hall] at hsome ⊢
    rw [List.map_map]
    apply List.Nodup.map_on _ ((nodup_fileNames_iff hkeys hsqlite).mpr hnodup)
    intro a ha b hb hab
    obtain ⟨kind, hkind, ha'⟩ := List.mem_flatMap.mp ha
    obtain ⟨kind', hkind', hb'⟩ := List.mem_flatMap.mp hb
    exact name_eq_of_place? (hnames kind hkind a ha') (hnames kind' hkind' b hb')
      (hsome _ (List.mem_map_of_mem ha)) hab
  refine ⟨⟨?_, fun hnodup => (hplaces hnodup).of_map⟩, documents, hdocuments, hmap, ?_⟩
  · intro hnodup
    rw [reported_renderAll hall] at hnodup
    exact (nodup_fileNames_iff hkeys hsqlite).mp hnodup.of_map
  · intro hnodup
    have hapart := hplaces hnodup
    refine ⟨hapart, hsome, ?_⟩
    apply hdocuments.read_eq_ok
    rwa [← hmap, List.map_map] at hapart

/-- Figures of no results at all, with some of the databases to choose. -/
def unmeasured (drawing : Chart.Drawing) (sqliteInsert : String) (ycsb : List String) : Study :=
  ⟨⟨⟨"results"⟩⟩, { Config.Figures.standard with
    sqliteInsert := { Config.SqliteInsert.standard with database := sqliteInsert }
    ycsb := { Config.Ycsb.standard with databases := ycsb.map fun name => ⟨name, 0⟩ } },
    .standard, drawing⟩

/-- Databases of one name in two directories of their own. -/
theorem outputs_apart_unmeasured :
    let s := unmeasured Chart.unlimited "sqlite" ["redis", "old/redis"]
    let paths := reported (s.renderAll .empty).2
    AllDrawn (s.renderAll .empty).2 ∧ (s.config.ycsb.databases.map (·.database)).Nodup ∧
      paths.Nodup ∧ (paths.map Path.place?).Nodup ∧
      ∃ documents, Chart.Written .empty documents (s.renderAll .empty).1 ∧
        documents.map (·.1) = paths ∧
        ∀ d ∈ documents, (s.renderAll .empty).1.read d.1 = .ok d.2 := by
  intro s paths
  have hall : AllDrawn (s.renderAll .empty).2 := by decide +kernel
  have hnodup : (s.config.ycsb.databases.map (·.database)).Nodup := by decide +kernel
  obtain ⟨hiff, documents, hdocuments, hmap, hapart⟩ :=
    outputs_apart s .empty (by decide +kernel) (by decide +kernel) (by decide +kernel) hall
  obtain ⟨hplaces, -, hread⟩ := hapart hnodup
  exact ⟨hall, hnodup, hiff.mpr hnodup, hplaces, documents, hdocuments, hmap, hread⟩

/-- A database that is listed twice has one file for both charts, and so have two figures of loading
that show the same database. Names with steps upwards can come to the same place in the end. This is
so however the charts are drawn, as long as they are. -/
theorem outputs_shared :
    let twice drawing := unmeasured drawing "sqlite" ["redis", "redis"]
    let loaded drawing := unmeasured drawing "redis" ["redis"]
    let upwards drawing := unmeasured drawing "sqlite" ["redis", "old/../redis"]
    (AllDrawn ((twice Chart.unlimited).renderAll .empty).2 ∧
      AllDrawn ((loaded Chart.unlimited).renderAll .empty).2 ∧
      AllDrawn ((upwards Chart.unlimited).renderAll .empty).2) ∧
    ∀ drawing t,
      (AllDrawn ((twice drawing).renderAll t).2 →
        ¬ (reported ((twice drawing).renderAll t).2).Nodup) ∧
      (AllDrawn ((loaded drawing).renderAll t).2 →
        ¬ (reported ((loaded drawing).renderAll t).2).Nodup) ∧
      (AllDrawn ((upwards drawing).renderAll t).2 →
        (reported ((upwards drawing).renderAll t).2).Nodup ∧
          ¬ ((reported ((upwards drawing).renderAll t).2).map Path.place?).Nodup) := by
  intro twice loaded upwards
  refine ⟨⟨by decide +kernel, by decide +kernel, by decide +kernel⟩, fun drawing t => ?_⟩
  -- The files are the same ones however the charts are drawn.
  let files (s : Study) : List Path := (Kind.all.flatMap s.fileNames).map s.layout.figurePath
  refine ⟨fun h => ?_, fun h => ?_, fun h => ?_⟩
  · rw [reported_renderAll h]
    change ¬ (files (twice Chart.unlimited)).Nodup
    decide +kernel
  · rw [reported_renderAll h]
    change ¬ (files (loaded Chart.unlimited)).Nodup
    decide +kernel
  · rw [reported_renderAll h]
    change (files (upwards Chart.unlimited)).Nodup ∧
      ¬ ((files (upwards Chart.unlimited)).map Path.place?).Nodup
    decide +kernel

end Study

end BenchCharts.Figure

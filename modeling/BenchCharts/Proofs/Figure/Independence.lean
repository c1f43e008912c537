import BenchCharts.Proofs.Chart.Writing
import BenchCharts.Proofs.Figure.Records
import BenchCharts.Proofs.Figure.Runs

/-!
Figures do not depend on one another. What is read and what is written never meet, so figures that
were drawn before, or could not be, make no difference to the files of another figure or to its
error. Drawing all figures again gives the same results. If the way to the results can only be
walked once the directory of figures is made, later figures show more than earlier ones, and
whether a chart can be drawn may depend on that, but nothing else does.
-/
namespace BenchCharts.Figure.Study

open Files (Path PlainName Tree)

variable {s : Study} {t u : Tree} {kind : Kind} {texts : Prop}

theorem exists_stem {database suffix : String} (hdatabase : '/' ∉ database.toList)
    (hsuffix : '/' ∉ suffix.toList) :
    ∃ stem, '/' ∉ stem.toList ∧ database ++ (suffix ++ ".svg") = stem ++ ".svg" := by
  refine ⟨database ++ suffix, ?_, by rw [String.append_assoc]⟩
  rw [String.toList_append, List.mem_append, not_or]
  exact ⟨hdatabase, hsuffix⟩

theorem fileNames_eq (hdatabases : ∀ database ∈ s.databases, '/' ∉ database.toList) {name : String}
    (h : name ∈ s.fileNames kind) : ∃ stem, '/' ∉ stem.toList ∧ name = stem ++ ".svg" := by
  unfold databases at hdatabases
  have hlattput : '/' ∉ "_lattput".toList := by decide
  cases kind with
  | insertOnly =>
    obtain ⟨database, hdatabase, rfl⟩ := List.mem_map.mp h
    exact exists_stem (hdatabases database (by simp [hdatabase])) hlattput
  | sqliteInsert =>
    rw [List.mem_singleton.mp h]
    exact exists_stem (hdatabases s.config.sqliteInsert.database (by simp)) hlattput
  | ycsb =>
    obtain ⟨d, hd, rfl⟩ := List.mem_map.mp h
    have hycsb : '/' ∉ "_ycsb".toList := by decide
    exact exists_stem (hdatabases d.database (by simp [List.mem_map_of_mem hd])) hycsb
  | rawWrite => exact ⟨"write_lat", by decide, List.mem_singleton.mp h⟩
  | rawRead => exact ⟨"read_lat", by decide, List.mem_singleton.mp h⟩
  | recovery => exact ⟨"recovery-time", by decide, List.mem_singleton.mp h⟩

theorem plainName_of_mem_fileNames (hdatabases : ∀ database ∈ s.databases, '/' ∉ database.toList)
    {name : String} (h : name ∈ s.fileNames kind) : PlainName name := by
  obtain ⟨stem, hstem, rfl⟩ := fileNames_eq hdatabases h
  exact Files.plainName_extension hstem (by decide) (by decide)

/-- Each file of a figure is one below the base, and no record. -/
theorem below_outputPath (hplain : s.Plain) {a : Artifact} (h : a.name ∈ s.fileNames kind) :
    (s.outputPath a).parent? = some s.layout.figureDirectory ∧
      s.layout.base.Below a.name (s.outputPath a) ∧
      ∀ record, s.layout.IsRecord record → ∃ last, s.layout.base.Below last record ∧
        last ≠ a.name := by
  have hdatabases : ∀ database ∈ s.databases, '/' ∉ database.toList :=
    fun database hdatabase => (hplain.database database hdatabase).2.1
  obtain ⟨stem, hstem, hname⟩ := fileNames_eq hdatabases h
  have hplainName := plainName_of_mem_fileNames hdatabases h
  refine ⟨?_, ?_, ?_⟩
  · exact Path.parent?_join_join s.layout.base (by decide) hplainName
  · exact (Path.Inside.base.join (by decide)).below_join hplainName
  · intro record hrecord
    obtain ⟨stem', extension, hbelow, hextension⟩ := Results.Layout.below_of_isRecord hrecord
    refine ⟨stem' ++ extension, hbelow, ?_⟩
    -- The last letters differ.
    intro heq
    rw [hname] at heq
    have hlast := congrArg (fun name => name.toList.getLast?) heq
    have hsvg : ".svg".toList = ['.', 's', 'v', 'g'] := by decide
    have hyml : ".yml".toList = ['.', 'y', 'm', 'l'] := by decide
    have hcsv : ".csv".toList = ['.', 'c', 's', 'v'] := by decide
    simp only [List.mem_cons, List.not_mem_nil, or_false] at hextension
    rcases hextension with rfl | rfl
    · simp [hsvg, hyml] at hlast
    · simp [hsvg, hcsv] at hlast

theorem outputPath_eq {a b : Artifact} (h : a.name = b.name) : s.outputPath b = s.outputPath a := by
  unfold outputPath
  rw [h]

/-- What figures leave behind of a tree. -/
abbrev Follows (s : Study) (t u : Tree) : Prop :=
  Chart.Follows s.layout.base s.layout.figureDirectory s.layout.IsRecord t u

theorem follows_write (hplain : s.Plain) {a : Artifact} (h : a.name ∈ s.fileNames kind) (t : Tree) :
    s.Follows t (s.write t a).1 := by
  obtain ⟨hparent, hbelow, hrecords⟩ := below_outputPath hplain h
  unfold write Chart.writeDrawing
  split
  · exact .refl _ _ _ t
  · exact .writeDocument hparent hbelow hrecords t _

theorem follows_writeAll (hplain : s.Plain) {artifacts : List Artifact}
    (h : ∀ a ∈ artifacts, a.name ∈ s.fileNames kind) (t : Tree) :
    s.Follows t (s.writeAll t artifacts).1 := by
  induction artifacts generalizing t with
  | nil => exact .refl _ _ _ t
  | cons a rest ih =>
    rw [List.forall_mem_cons] at h
    have hwrite := follows_write hplain h.1 t
    unfold writeAll
    split
    · next t' e hwritten =>
      rw [hwritten] at hwrite
      exact hwrite
    · next t' _ hwritten =>
      rw [hwritten] at hwrite
      have hrest := ih h.2 t'
      split
      · next t'' e hall =>
        rw [hall] at hrest
        exact hwrite.trans hrest
      · next t'' paths hall =>
        rw [hall] at hrest
        exact hwrite.trans hrest

theorem names_of_artifacts (hstyled : s.Styled kind) {artifacts : List Artifact}
    (h : s.artifacts (s.read t kind) = .ok artifacts) :
    ∀ a ∈ artifacts, a.name ∈ s.fileNames kind := by
  obtain ⟨as, bs, has, hbs, halike⟩ := both_artifacts hstyled t t
  rw [h] at has hbs
  obtain rfl := Except.ok.inj has
  obtain rfl := Except.ok.inj hbs
  intro a ha
  exact (List.forall₂_same.mp halike a ha).name_mem

theorem follows_render (hplain : s.Plain) (t : Tree) (kind : Kind) :
    s.Follows t (s.render t kind).1 := by
  by_cases hstyled : s.Styled kind
  · obtain ⟨artifacts, hartifacts, hrender⟩ := render_of_styled hstyled t
    rw [hrender]
    exact follows_writeAll hplain (names_of_artifacts hstyled hartifacts) t
  · obtain ⟨e, he⟩ := render_of_not_styled hstyled
    rw [he]
    exact .refl _ _ _ t

theorem follows_after (hplain : s.Plain) (t : Tree) (kinds : List Kind) :
    s.Follows t (s.after t kinds) := by
  induction kinds generalizing t with
  | nil => exact .refl _ _ _ t
  | cons kind rest ih => exact (follows_render hplain t kind).trans (ih _)

theorem follows_renderEach (hplain : s.Plain) (t : Tree) (kinds : List Kind) :
    s.Follows t (s.renderEach t kinds).1 := by
  induction kinds generalizing t with
  | nil => exact .refl _ _ _ t
  | cons kind rest ih =>
    by_cases hbreaks : BreaksOff (s.render t kind).2
    · obtain ⟨e, he⟩ := hbreaks
      rw [renderEach_of_breaksOff he]
      exact follows_render hplain t kind
    · rw [renderEach_of_not_breaksOff hbreaks]
      exact (follows_render hplain t kind).trans (ih _)

/-- Two runs, one from each of two trees: they end alike and change both trees alike. -/
structure Twins {α : Type} (texts : Prop) (t u : Tree) (x y : Tree × α) : Prop where
  result_eq : x.2 = y.2
  parallel : Tree.Parallel texts t x.1 u y.1

/-- Charts of the same file are written alike, unless only one of them can be drawn. -/
theorem twins_write (hplain : s.Plain) {a b : Artifact} (halike : a.Alike (s.fileNames kind) b)
    (hakin : Tree.Akin s.layout.figureDirectory t u) (hsame : texts → a = b)
    (hdrawn : texts ∨ s.Drawable a ∧ s.Drawable b) :
    Twins texts t u (s.write t a) (s.write u b) := by
  obtain ⟨hparent, -, -⟩ := below_outputPath hplain halike.name_mem
  unfold write
  rw [outputPath_eq halike.name_eq]
  rcases hdrawn with htexts | ⟨⟨elements, ha⟩, elements', hb⟩
  · obtain rfl := hsame htexts
    cases s.drawing a.chart a.size s.config.pen with
    | error e => exact ⟨rfl, .refl texts t u⟩
    | ok elements =>
      exact ⟨Chart.result_writeDocument hparent hakin,
        Chart.parallel_writeDocument hparent hakin fun _ => rfl⟩
  · rw [ha, hb]
    refine ⟨Chart.result_writeDocument hparent hakin,
      Chart.parallel_writeDocument hparent hakin ?_⟩
    intro htexts
    obtain rfl := hsame htexts
    rw [Except.ok.inj (ha.symm.trans hb)]

theorem twins_writeAll (hplain : s.Plain) {as bs : List Artifact}
    (halike : List.Forall₂ (Artifact.Alike (s.fileNames kind)) as bs)
    (hakin : Tree.Akin s.layout.figureDirectory t u) (hsame : texts → as = bs)
    (hdrawn : texts ∨ ¬ BreaksOff (s.writeAll t as).2 ∧ ¬ BreaksOff (s.writeAll u bs).2) :
    Twins texts t u (s.writeAll t as) (s.writeAll u bs) := by
  induction halike generalizing t u with
  | nil => exact ⟨rfl, .refl texts t u⟩
  | @cons a b as bs hab _ ih =>
    have hhead : texts → a = b := fun htexts => (List.cons.inj (hsame htexts)).1
    have hrest : texts → as = bs := fun htexts => (List.cons.inj (hsame htexts)).2
    have hfirst : texts ∨ s.Drawable a ∧ s.Drawable b := hdrawn.imp_right fun h =>
      ⟨(not_breaksOff_writeAll_cons h.1).1, (not_breaksOff_writeAll_cons h.2).1⟩
    have hothers : (s.write t a).2 = .ok () → (s.write u b).2 = .ok () →
        texts ∨ ¬ BreaksOff (s.writeAll (s.write t a).1 as).2 ∧
          ¬ BreaksOff (s.writeAll (s.write u b).1 bs).2 := fun ha hb => hdrawn.imp_right fun h =>
      ⟨(not_breaksOff_writeAll_cons h.1).2 ha, (not_breaksOff_writeAll_cons h.2).2 hb⟩
    have hwrite := twins_write hplain hab hakin hhead hfirst
    have ht := follows_write hplain hab.name_mem t
    have hu := follows_write hplain (hab.name_eq ▸ hab.name_mem) u
    unfold writeAll
    rcases hx : s.write t a with ⟨t', x⟩
    rcases hy : s.write u b with ⟨u', y⟩
    rw [hx, hy] at hwrite hothers
    rw [hx] at ht
    rw [hy] at hu
    obtain ⟨hresult, hparallel⟩ := hwrite
    dsimp only at hresult hparallel ht hu hothers
    subst hresult
    cases x with
    | error e => exact ⟨rfl, hparallel⟩
    | ok _ =>
      have hakin' : Tree.Akin s.layout.figureDirectory t' u' :=
        (ht.akin.symm.trans hakin).trans hu.akin
      obtain ⟨hresults, hparallels⟩ := ih hakin' hrest (hothers rfl rfl)
      rcases hall : s.writeAll t' as with ⟨t'', z⟩
      rcases hall' : s.writeAll u' bs with ⟨u'', z'⟩
      rw [hall, hall'] at hresults hparallels
      dsimp only at hresults hparallels
      subst hresults
      simp only [hall, hall', outputPath_eq hab.name_eq]
      cases z with
      | error e => exact ⟨rfl, hparallel.trans hparallels⟩
      | ok paths => exact ⟨rfl, hparallel.trans hparallels⟩

/-- A figure ends alike in trees that are akin, unless only one of them breaks it off. Where the
records hold the same texts, so do the files that it writes. -/
theorem twins_render (hplain : s.Plain) (kind : Kind)
    (hakin : Tree.Akin s.layout.figureDirectory t u)
    (hsame : texts → SameTexts s.layout t u)
    (hdrawn : texts ∨ ¬ BreaksOff (s.render t kind).2 ∧ ¬ BreaksOff (s.render u kind).2) :
    Twins texts t u (s.render t kind) (s.render u kind) := by
  by_cases hstyled : s.Styled kind
  · obtain ⟨as, has, ht⟩ := render_of_styled hstyled t
    obtain ⟨bs, hbs, hu⟩ := render_of_styled hstyled u
    obtain ⟨as', bs', has', hbs', halike⟩ := both_artifacts hstyled t u
    obtain rfl := Except.ok.inj (has.symm.trans has')
    obtain rfl := Except.ok.inj (hbs.symm.trans hbs')
    rw [ht, hu] at hdrawn ⊢
    apply twins_writeAll hplain halike hakin _ hdrawn
    intro htexts
    rw [← artifacts_unreported, read_unreported (hsame htexts) hplain kind,
      artifacts_unreported, hbs] at has
    exact (Except.ok.inj has).symm
  · obtain ⟨e, he⟩ := render_of_not_styled hstyled
    rw [he, he]
    exact ⟨rfl, .refl texts t u⟩

theorem twins_renderEach (hplain : s.Plain) (kinds : List Kind)
    (hakin : Tree.Akin s.layout.figureDirectory t u)
    (hsame : texts → t.Steady s.layout.base ∧ u.Steady s.layout.base ∧ SameTexts s.layout t u)
    (hdrawn : texts ∨ (∃ results, (s.renderEach t kinds).2 = .ok results) ∧
      ∃ results, (s.renderEach u kinds).2 = .ok results) :
    Twins texts t u (s.renderEach t kinds) (s.renderEach u kinds) := by
  induction kinds generalizing t u with
  | nil => exact ⟨rfl, .refl texts t u⟩
  | cons kind rest ih =>
    have ht := follows_render hplain t kind
    have hu := follows_render hplain u kind
    have hfirst : texts ∨ ¬ BreaksOff (s.render t kind).2 ∧ ¬ BreaksOff (s.render u kind).2 :=
      hdrawn.imp_right fun ⟨⟨_, h⟩, _, h'⟩ =>
        ⟨(renderEach_cons_of_ok h).1, (renderEach_cons_of_ok h').1⟩
    have hothers : texts ∨
        (∃ results, (s.renderEach (s.render t kind).1 rest).2 = .ok results) ∧
          ∃ results, (s.renderEach (s.render u kind).1 rest).2 = .ok results :=
      hdrawn.imp_right fun ⟨⟨_, h⟩, _, h'⟩ =>
        ⟨(renderEach_cons_of_ok h).2.imp fun _ => And.left,
          (renderEach_cons_of_ok h').2.imp fun _ => And.left⟩
    obtain ⟨hresult, hparallel⟩ :=
      twins_render hplain kind hakin (fun htexts => (hsame htexts).2.2) hfirst
    by_cases hbreaks : BreaksOff (s.render t kind).2
    · obtain ⟨e, he⟩ := hbreaks
      rw [renderEach_of_breaksOff he, renderEach_of_breaksOff (hresult ▸ he)]
      exact ⟨rfl, hparallel⟩
    · rw [renderEach_of_not_breaksOff hbreaks, renderEach_of_not_breaksOff (hresult ▸ hbreaks)]
      have hrest := ih ((ht.akin.symm.trans hakin).trans hu.akin) (by
        intro htexts
        obtain ⟨hsteady, hsteady', hsame'⟩ := hsame htexts
        refine ⟨hsteady.keeps ht.keeps, hsteady'.keeps hu.keeps, ?_⟩
        intro path hpath text
        rw [← ht.read_iff hsteady path hpath text, ← hu.read_iff hsteady' path hpath text]
        exact hsame' path hpath text) hothers
      obtain ⟨hresults, hparallels⟩ := hrest
      refine ⟨?_, hparallel.trans hparallels⟩
      dsimp only
      rw [hresult, hresults]

/-! ## One figure among others -/

/-- Figures that were drawn before make no difference to one that can be drawn either way. -/
theorem result_render_after (hplain : s.Plain) (t : Tree) (kinds : List Kind) (kind : Kind)
    (h : t.Steady s.layout.base ∨ ¬ BreaksOff (s.render t kind).2 ∧
      ¬ BreaksOff (s.render (s.after t kinds) kind).2) :
    (s.render (s.after t kinds) kind).2 = (s.render t kind).2 := by
  have hfollows := follows_after hplain t kinds
  have htwins := twins_render hplain kind hfollows.akin hfollows.read_iff h
  exact htwins.result_eq.symm

/-- Each result of a run is the one that the figure has alone, if it can be drawn alone. -/
theorem result_alone (hplain : s.Plain) {kinds : List Kind} {results : List Result}
    (h : (s.renderEach t kinds).2 = .ok results) {result : Result} (hresult : result ∈ results)
    (halone : t.Steady s.layout.base ∨ ¬ BreaksOff (s.render t result.1).2) :
    result.2 = (s.render t result.1).2 := by
  obtain ⟨hdrawn, before, rest, -, heq⟩ := result_of_renderEach h result hresult
  rw [heq] at hdrawn ⊢
  exact result_render_after hplain t before result.1 (halone.imp_right fun h => ⟨h, hdrawn⟩)

/-- With a steady base, a run has results if each of its figures has one. -/
theorem exists_results_iff (hplain : s.Plain) (hsteady : t.Steady s.layout.base)
    (kinds : List Kind) :
    (∃ results, (s.renderEach t kinds).2 = .ok results) ↔
      ∀ kind ∈ kinds, ¬ BreaksOff (s.render t kind).2 := by
  constructor
  · rintro ⟨results, hresults⟩ kind hkind
    rw [← kinds_of_renderEach hresults] at hkind
    obtain ⟨result, hresult, rfl⟩ := List.mem_map.mp hkind
    rw [← result_alone hplain hresults hresult (Or.inl hsteady)]
    exact (result_of_renderEach hresults result hresult).1
  · intro h
    cases hrun : (s.renderEach t kinds).2 with
    | ok results => exact ⟨results, rfl⟩
    | error e =>
      obtain ⟨before, kind, rest, rfl, hbroken⟩ := exists_breaksOff_of_renderEach hrun
      rw [result_render_after hplain t before kind (Or.inl hsteady)] at hbroken
      exact absurd ⟨e, hbroken⟩ (h kind (by simp))

/-! ## All figures -/

/-- Two runs of all figures, one after the other, change at most texts of files. With a steady base
the second one is the first one over again. -/
theorem renderEach_again (hplain : s.Plain) (t : Tree) (kinds : List Kind)
    (h : t.Steady s.layout.base ∨ (∃ results, (s.renderEach t kinds).2 = .ok results) ∧
      ∃ results, (s.renderEach (s.renderEach t kinds).1 kinds).2 = .ok results) :
    (s.renderEach (s.renderEach t kinds).1 kinds).2 = (s.renderEach t kinds).2 ∧
      (s.renderEach (s.renderEach t kinds).1 kinds).1.places = (s.renderEach t kinds).1.places ∧
      (s.renderEach (s.renderEach t kinds).1 kinds).1.SameDirectories (s.renderEach t kinds).1 ∧
      (t.Steady s.layout.base →
        (s.renderEach (s.renderEach t kinds).1 kinds).1 = (s.renderEach t kinds).1) := by
  have hfirst := follows_renderEach hplain t kinds
  have hsecond := follows_renderEach hplain (s.renderEach t kinds).1 kinds
  have htwins : Twins (t.Steady s.layout.base) t (s.renderEach t kinds).1 (s.renderEach t kinds)
      (s.renderEach (s.renderEach t kinds).1 kinds) := by
    apply twins_renderEach hplain kinds hfirst.akin _ h
    intro hsteady
    exact ⟨hsteady, hsteady.keeps hfirst.keeps, hfirst.read_iff hsteady⟩
  have hmatches := htwins.parallel.again
  have hplaces : (s.renderEach t kinds).1.places =
      (s.renderEach (s.renderEach t kinds).1 kinds).1.places := by
    apply Tree.places_eq_of_prefix hsecond.places
    intro p hp
    exact mt (hmatches p).none_iff.mp hp
  refine ⟨htwins.result_eq.symm, hplaces.symm, ⟨?_, hsecond.keeps⟩, ?_⟩
  · intro p hp
    exact (hmatches p).directory_iff.mpr hp
  · intro hsteady
    apply Tree.ext_of_at? hplaces.symm
    intro p
    exact ((hmatches p).1 hsteady).symm

/-- Figures are independent of one another, and all of them can be drawn again. Where the base is
not steady, this holds of figures and runs that are not broken off. -/
theorem figures_independent (s : Study) (hplain : s.Plain) (t : Tree) :
    (∀ (kinds : List Kind) (kind : Kind),
      (t.Steady s.layout.base ∨ ¬ BreaksOff (s.render t kind).2 ∧
        ¬ BreaksOff (s.render (s.after t kinds) kind).2) →
      (s.render (s.after t kinds) kind).2 = (s.render t kind).2) ∧
    (∀ results, (s.renderAll t).2 = .ok results →
      results.map (·.1) = Kind.all ∧
      ∀ entry ∈ results, (t.Steady s.layout.base ∨ ¬ BreaksOff (s.render t entry.1).2) →
        entry.2 = (s.render t entry.1).2 ∧
        entry.2.mapError (RenderError.messageFor entry.1) =
          (s.render t entry.1).2.mapError fun e =>
            "rendering figure " ++ entry.1.name ++ ": " ++ e.message) ∧
    (t.Steady s.layout.base → ((∃ results, (s.renderAll t).2 = .ok results) ↔
      ∀ kind, ¬ BreaksOff (s.render t kind).2)) ∧
    (∀ results again, (s.renderAll t).2 = .ok results →
      (s.renderAll (s.renderAll t).1).2 = .ok again →
      again = results ∧ (s.renderAll (s.renderAll t).1).1.places = (s.renderAll t).1.places ∧
      (s.renderAll (s.renderAll t).1).1.SameDirectories (s.renderAll t).1) ∧
    (t.Steady s.layout.base → s.renderAll (s.renderAll t).1 = s.renderAll t) := by
  refine ⟨result_render_after hplain t, ?_, ?_, ?_, ?_⟩
  · intro results hresults
    refine ⟨kinds_of_renderEach hresults, fun entry hentry halone => ?_⟩
    have hresult := result_alone hplain hresults hentry halone
    rw [hresult]
    exact ⟨rfl, rfl⟩
  · intro hsteady
    refine (exists_results_iff hplain hsteady Kind.all).trans ?_
    exact forall_congr' fun kind => by simp [Kind.mem_all]
  · intro results again hresults hagain
    obtain ⟨hsame, hplaces, hdirectories, -⟩ :=
      renderEach_again hplain t Kind.all (Or.inr ⟨⟨results, hresults⟩, again, hagain⟩)
    exact ⟨Except.ok.inj (hagain.symm.trans (hsame.trans hresults)), hplaces, hdirectories⟩
  · intro hsteady
    obtain ⟨hsame, -, -, htree⟩ := renderEach_again hplain t Kind.all (Or.inl hsteady)
    exact Prod.ext (htree hsteady) hsame

/-- The standard figures of results in which only writes were measured. -/
theorem figures_independent_standard :
    let s : Study := ⟨⟨⟨"results"⟩⟩, .standard, .standard, Chart.elements⟩
    let t := Tree.empty.plant ["results", "raw", "sync_write.csv"] (.file (.text "128,10\n"))
    s.Plain ∧ t.Steady s.layout.base ∧
      (s.render (s.after t [.recovery, .rawWrite]) .rawWrite).2 = (s.render t .rawWrite).2 ∧
      s.renderAll (s.renderAll t).1 = s.renderAll t := by
  intro s t
  have hplain : s.Plain := by decide +kernel
  have hsteady : t.Steady s.layout.base := Or.inl (by decide +kernel)
  obtain ⟨hrender, -, -, -, hagain⟩ := figures_independent s hplain t
  exact ⟨hplain, hsteady, hrender [.recovery, .rawWrite] .rawWrite (Or.inl hsteady),
    hagain hsteady⟩

end BenchCharts.Figure.Study

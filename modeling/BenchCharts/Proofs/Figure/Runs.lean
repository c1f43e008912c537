import BenchCharts.Proofs.Figure.Styles

/-!
Runs of several figures. A figure breaks its run off if one of its charts cannot be drawn. A run
that is not broken off has a result for each of its figures, which is the one that the figure has on
the tree that those before it have left.
-/
namespace BenchCharts.Figure.Study

open Canvas (CanvasSize Element)
open Chart (MeasureError)
open Files (Path Tree)

variable {s : Study} {t u : Tree} {kind : Kind} {kinds : List Kind} {e : MeasureError}

/-- The figure has a chart that cannot be drawn. -/
def BreaksOff (result : Except RenderError (List Path)) : Prop :=
  ∃ e, result = .error (.file (.undrawable e))

/-- The chart can be drawn. -/
def Drawable (s : Study) (a : Artifact) : Prop :=
  ∃ elements, s.drawing a.chart a.size s.config.pen = .ok elements

/-! ## Charts -/

theorem makeParent_ne_undrawable (t : Tree) (path : Path) (e : MeasureError) :
    (Chart.makeParent t path).2 ≠ .error (.undrawable e) := by
  unfold Chart.makeParent
  split
  · simp
  · split <;> simp

theorem writeDocument_ne_undrawable (t : Tree) (path : Path) (text : String)
    (e : MeasureError) : (Chart.writeDocument t path text).2 ≠ .error (.undrawable e) := by
  have hparent := makeParent_ne_undrawable t path e
  unfold Chart.writeDocument
  split
  · next t' cause hmade =>
    rw [hmade] at hparent
    exact hparent
  · split <;> simp

/-- Once a chart is drawn, only its file or the directories above it can fail. -/
theorem writeDrawing_undrawable_iff {path : Path} {size : CanvasSize}
    {drawing : Except MeasureError (List Element)} :
    (Chart.writeDrawing t path size drawing).2 = .error (.undrawable e) ↔
      drawing = .error e := by
  unfold Chart.writeDrawing
  split
  · next cause => simp
  · next elements =>
    exact iff_of_false (writeDocument_ne_undrawable t path _ e) (by simp)

/-- Charts are not broken off if the first one is drawn, and the others are not on what it leaves
behind. -/
theorem not_breaksOff_writeAll_cons {a : Artifact} {rest : List Artifact}
    (h : ¬ BreaksOff (s.writeAll t (a :: rest)).2) :
    s.Drawable a ∧
      ((s.write t a).2 = .ok () → ¬ BreaksOff (s.writeAll (s.write t a).1 rest).2) := by
  unfold writeAll at h
  constructor
  · cases hdrawing : s.drawing a.chart a.size s.config.pen with
    | ok elements => exact ⟨elements, hdrawing⟩
    | error e =>
      have hwritten : s.write t a = (t, .error (.undrawable e)) := by
        unfold write
        rw [hdrawing]
        rfl
      rw [hwritten] at h
      exact absurd ⟨e, rfl⟩ h
  · intro hok
    rcases hwritten : s.write t a with ⟨u, written⟩
    rw [hwritten] at h hok
    obtain rfl : written = .ok () := hok
    rintro ⟨e, he⟩
    rcases hrest : s.writeAll u rest with ⟨v, result⟩
    rw [hrest] at he
    obtain rfl : result = .error (.file (.undrawable e)) := he
    simp only [hrest] at h
    exact h ⟨e, rfl⟩

/-- One chart that can be drawn is not broken off. -/
theorem not_breaksOff_writeAll_singleton {a : Artifact} (h : s.Drawable a) (t : Tree) :
    ¬ BreaksOff (s.writeAll t [a]).2 := by
  obtain ⟨elements, helements⟩ := h
  have hwrite (e : MeasureError) : (s.write t a).2 ≠ .error (.undrawable e) := by
    unfold write
    rw [Ne, writeDrawing_undrawable_iff, helements]
    simp
  rintro ⟨e, he⟩
  unfold writeAll at he
  rcases hwritten : s.write t a with ⟨u, cause | done⟩
  · rw [hwritten] at he hwrite
    simp only [Except.error.injEq, RenderError.file.injEq] at he
    exact hwrite e (congrArg Except.error he)
  · rw [hwritten] at he
    simp [writeAll] at he

/-! ## Figures -/

theorem renderEach_of_breaksOff (h : (s.render t kind).2 = .error (.file (.undrawable e)))
    (rest : List Kind) : s.renderEach t (kind :: rest) = ((s.render t kind).1, .error e) := by
  have hrender : s.render t kind = ((s.render t kind).1, .error (.file (.undrawable e))) :=
    Prod.ext rfl h
  rw [renderEach, hrender]

theorem renderEach_of_not_breaksOff (h : ¬ BreaksOff (s.render t kind).2) (rest : List Kind) :
    s.renderEach t (kind :: rest) = ((s.renderEach (s.render t kind).1 rest).1,
      (s.renderEach (s.render t kind).1 rest).2.map fun results =>
        (kind, (s.render t kind).2) :: results) := by
  rw [renderEach]
  split
  · next u e hrender => exact absurd ⟨e, congrArg Prod.snd hrender⟩ h
  · next u result _ hrender =>
    rw [hrender]
    dsimp only
    rcases s.renderEach u rest with ⟨v, e | results⟩ <;> rfl

/-- The tree after some figures, each of which was drawn however the ones before it ended. -/
def after (s : Study) (t : Tree) (kinds : List Kind) : Tree :=
  kinds.foldl (fun t kind => (s.render t kind).1) t

/-- A run that has results has one for each figure. -/
theorem renderEach_cons_of_ok {rest : List Kind} {results : List Result}
    (h : (s.renderEach t (kind :: rest)).2 = .ok results) :
    ¬ BreaksOff (s.render t kind).2 ∧ ∃ more, (s.renderEach (s.render t kind).1 rest).2 = .ok more ∧
      results = (kind, (s.render t kind).2) :: more := by
  by_cases hbreaks : BreaksOff (s.render t kind).2
  · obtain ⟨e, he⟩ := hbreaks
    rw [renderEach_of_breaksOff he] at h
    contradiction
  · rw [renderEach_of_not_breaksOff hbreaks, map_eq_ok_iff] at h
    obtain ⟨more, hmore, hresults⟩ := h
    exact ⟨hbreaks, more, hmore, hresults.symm⟩

theorem kinds_of_renderEach {results : List Result}
    (h : (s.renderEach t kinds).2 = .ok results) : results.map (·.1) = kinds := by
  induction kinds generalizing t results with
  | nil =>
    obtain rfl := Except.ok.inj h
    rfl
  | cons kind rest ih =>
    obtain ⟨-, more, hmore, rfl⟩ := renderEach_cons_of_ok h
    rw [List.map_cons, ih hmore]

/-- The result of a figure is the one after the figures before it. -/
theorem result_of_renderEach {results : List Result} (h : (s.renderEach t kinds).2 = .ok results) :
    ∀ result ∈ results, ¬ BreaksOff result.2 ∧ ∃ before rest, kinds = before ++ result.1 :: rest ∧
      result.2 = (s.render (s.after t before) result.1).2 := by
  induction kinds generalizing t results with
  | nil =>
    obtain rfl := Except.ok.inj h
    simp
  | cons kind rest ih =>
    obtain ⟨hbreaks, more, hmore, rfl⟩ := renderEach_cons_of_ok h
    rw [List.forall_mem_cons]
    refine ⟨⟨hbreaks, [], rest, rfl, rfl⟩, ?_⟩
    intro result hresult
    obtain ⟨hdrawn, before, others, hsplit, heq⟩ := ih hmore result hresult
    exact ⟨hdrawn, kind :: before, others, by rw [hsplit, List.cons_append], heq⟩

/-- A run without results ended at a figure that cannot be drawn after those before it. -/
theorem exists_breaksOff_of_renderEach (h : (s.renderEach t kinds).2 = .error e) :
    ∃ before kind rest, kinds = before ++ kind :: rest ∧
      (s.render (s.after t before) kind).2 = .error (.file (.undrawable e)) := by
  induction kinds generalizing t with
  | nil => simp [renderEach] at h
  | cons kind rest ih =>
    by_cases hbreaks : BreaksOff (s.render t kind).2
    · obtain ⟨e', he'⟩ := hbreaks
      rw [renderEach_of_breaksOff he'] at h
      obtain rfl := Except.error.inj h
      exact ⟨[], kind, rest, rfl, he'⟩
    · rw [renderEach_of_not_breaksOff hbreaks] at h
      cases hrest : (s.renderEach (s.render t kind).1 rest).2 with
      | ok results => simp [hrest, Except.map] at h
      | error e' =>
        simp only [hrest, Except.map, Except.error.injEq] at h
        obtain ⟨before, found, others, hsplit, hfound⟩ := ih (h ▸ hrest)
        exact ⟨kind :: before, found, others, by rw [hsplit, List.cons_append], hfound⟩

end BenchCharts.Figure.Study

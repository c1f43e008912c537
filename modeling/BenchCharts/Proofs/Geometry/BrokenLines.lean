import BenchCharts.Proofs.ExtendedArithmetic
import BenchCharts.Proofs.Geometry.KeptPoints
import BenchCharts.Proofs.Traversal

/-!
Lines through points that need not be finite, in a window with finite bounds. A point that is not
finite has no place and breaks the line. All cuts are between finite points, so they are those of
exact arithmetic.
-/
namespace BenchCharts.Geometry

section
variable {K : Type}

/-- The point of these coordinates among those that need not be finite. -/
def finitePoint (a : K × K) : Extended K × Extended K := (.finite a.1, .finite a.2)

/-- The coordinates of a point, if both are finite. -/
def place? (p : Extended K × Extended K) : Option (K × K) := do
  return (← p.1.value?, ← p.2.value?)

@[simp]
theorem finitePoint_fst (a : K × K) : (finitePoint a).1 = .finite a.1 := rfl

@[simp]
theorem finitePoint_snd (a : K × K) : (finitePoint a).2 = .finite a.2 := rfl

theorem place?_finitePoint (a : K × K) : place? (finitePoint a) = some a := rfl

variable [Field K] [LinearOrder K] [FloorRing K]

theorem zero_one_eq : ((0, 1) : Extended K × Extended K) = finitePoint (0, 1) := rfl

theorem narrow_finite (bounds : K × K) (p q : K) :
    narrow (finitePoint bounds) (.finite p) (.finite q) = (narrow bounds p q).map finitePoint := by
  unfold narrow
  by_cases hzero : p = 0
  · subst hzero
    by_cases hq : q < 0 <;> simp [hq]
  · have hne : (p == 0) = false := beq_false_of_ne hzero
    simp only [Extended.finite_zero, Extended.finite_beq, hne, Bool.false_eq_true, if_false,
      Extended.finite_lt, Extended.finite_div q hzero, finitePoint]
    split_ifs <;> simp [finitePoint]

theorem clipParameters_finite (a b low high : K × K) :
    clipParameters (finitePoint a) (finitePoint b) (finitePoint low) (finitePoint high) =
      (clipParameters a b low high).map finitePoint := by
  simp only [clipParameters, finitePoint_fst, finitePoint_snd, Extended.finite_sub,
    Extended.neg_finite, zero_one_eq, narrow_finite, Option.bind_eq_bind, Option.bind_map,
    Option.map_bind, Function.comp_def]

theorem along_finite (a b : K × K) (t : K) :
    along (finitePoint a) (finitePoint b) (.finite t) = finitePoint (along a b t) := by
  simp [along, finitePoint]

variable {β : Type} {position? : β → Option (Extended K × Extended K)} {place : β → Option (K × K)}
  {value : Extended K × Extended K → β}

theorem clipStep_finite (hplace : ∀ p, position? p = (place p).map finitePoint) (low high : K × K)
    (s : RunScan β) (ends : β × β) :
    clipStep position? value (finitePoint low) (finitePoint high) s ends =
      clipStep place (fun a => value (finitePoint a)) low high s ends := by
  unfold clipStep
  rw [hplace, hplace]
  cases place ends.1 with
  | none => simp
  | some a =>
    cases place ends.2 with
    | none => simp
    | some b =>
      simp only [Option.map_some, clipParameters_finite]
      cases clipParameters a b low high with
      | none => rfl
      | some t => simp [along_finite]

end

section
variable {K : Type} [Field K] [LinearOrder K] [FloorRing K] [Elementary K]

/-- A window of finite ranges for points that need not be finite. -/
def linearWindow (x y : AxisRange K) : Window (Extended K) :=
  ⟨⟨.finite x.min, .finite x.max⟩, .linear, ⟨.finite y.min, .finite y.max⟩, .linear⟩

variable (x y : AxisRange K)

theorem position?_linearWindow (p : Extended K × Extended K) :
    (linearWindow x y).position? p = (place? p).map finitePoint := by
  obtain ⟨_ | _ | _, _ | _ | _⟩ := p <;> rfl

omit [Elementary K] in
theorem contains_finite (low high : K) (v : Extended K) :
    (⟨.finite low, .finite high⟩ : AxisRange (Extended K)).contains v = true ↔
      ∃ a, v.value? = some a ∧ low ≤ a ∧ a ≤ high := by
  simp only [AxisRange.contains, Bool.and_eq_true, decide_eq_true_eq]
  cases v with
  | finite a => simp [Extended.value?]
  | infinite negative => simp [Extended.value?]
  | undefined => simp [Extended.value?]

theorem contains_linearWindow (p : Extended K × Extended K) :
    (linearWindow x y).contains p = true ↔
      ∃ a ∈ place? p, a ∈ Set.Icc (x.min, y.min) (x.max, y.max) := by
  rw [Window.contains, Bool.and_eq_true, linearWindow, contains_finite, contains_finite]
  simp only [place?, Option.bind_eq_bind, Option.mem_def, Option.bind_eq_some_iff, Option.pure_def,
    Option.some.injEq, Set.mem_Icc, Prod.le_def]
  constructor
  · rintro ⟨⟨a, ha, hleft, hright⟩, b, hb, hbottom, htop⟩
    exact ⟨(a, b), ⟨a, ha, b, hb, rfl⟩, ⟨hleft, hbottom⟩, hright, htop⟩
  · rintro ⟨_, ⟨a, ha, b, hb, rfl⟩, ⟨hleft, hbottom⟩, hright, htop⟩
    exact ⟨⟨a, ha, hleft, hright⟩, b, hb, hbottom, htop⟩

theorem clipLine_linearWindow (points : List (Extended K × Extended K)) :
    (linearWindow x y).clipLine points =
      clipRuns place? finitePoint (x.min, y.min) (x.max, y.max) points := by
  have hstep : clipStep (linearWindow x y).position? (linearWindow x y).value
        (finitePoint (x.min, y.min)) (finitePoint (x.max, y.max)) =
      clipStep place? finitePoint (x.min, y.min) (x.max, y.max) := by
    funext s ends
    exact clipStep_finite (position?_linearWindow x y) _ _ s ends
  rw [Window.clipLine, position?_linearWindow, position?_linearWindow]
  exact congrArg (fun step => ((points.zip points.tail).foldl step RunScan.start).close.closed)
    hstep

end

/-- The runs of a line in a window, where points without a place break the line. Each has at least
two points and goes along one stretch of the line inside; the stretches are maximal, are all that is
visible of the line, and come in its order. The points inside that have a neighbour with a place are
among those of the runs, and a line inside everywhere is its only run. -/
theorem Window.clipLine_runs [Elementary ℚ] (x y : AxisRange ℚ)
    (points : List (Extended ℚ × Extended ℚ)) :
    let w := linearWindow x y
    let low := (x.min, y.min)
    let high := (x.max, y.max)
    (∀ run ∈ w.clipLine points, 2 ≤ run.length) ∧
    (∃ stretches, List.Forall₂ (Follows place? points) stretches (w.clipLine points) ∧
      Divides place? low high points (visible place? low high points) stretches ∧
      ∀ stretch ∈ stretches, ∀ u ∈ Set.Icc stretch.1 stretch.2,
        (visible place? low high points).ordConnectedComponent u =
          Set.Icc stretch.1 stretch.2) ∧
    (keptPoints w.contains (fun p => (w.position? p).isSome) false points).Sublist
      (w.clipLine points).flatten ∧
    ((∀ p ∈ points, w.contains p = true) → 2 ≤ points.length → w.clipLine points = [points]) := by
  intro w low high
  have hcontains := contains_linearWindow x y
  have hplaced : (fun p => (w.position? p).isSome) = fun p => (place? p).isSome := by
    funext p
    rw [position?_linearWindow, Option.isSome_map]
  rw [hplaced, clipLine_linearWindow]
  obtain ⟨stretches, hfollows, hdivides⟩ :=
    clipRuns_follow low high place?_finitePoint points
  refine ⟨?_, ⟨stretches, hfollows, hdivides, ?_⟩, ?_, ?_⟩
  · intro run hrun
    obtain ⟨stretch, -, hfollow⟩ := exists_of_forall₂ hfollows.flip hrun
    exact Follows.two_le_length hfollow
  · exact fun stretch hmem u hu => hdivides.component hmem hu
  · exact keptPoints_sublist hcontains points
  · exact clipRuns_inside hcontains

/-- A line that is broken once and leaves the window at last, and its beginning alone, which stays
inside. -/
theorem Window.clipLine_runs_broken :
    let _ : Elementary ℚ := ⟨id, id, id⟩
    let w := linearWindow ⟨0, 4⟩ ⟨0, 4⟩
    let p : Extended ℚ × Extended ℚ := (.finite 1, .finite 1)
    let q : Extended ℚ × Extended ℚ := (.finite 2, .finite 3)
    let r : Extended ℚ × Extended ℚ := (.finite 3, .finite 2)
    let s : Extended ℚ × Extended ℚ := (.finite 3, .infinite false)
    (w.contains p = true ∧ w.contains q = true ∧ w.clipLine [p, q] = [[p, q]]) ∧
      [p, q, r].Sublist (w.clipLine [p, q, s, r, (.finite 3, .finite 6)]).flatten := by
  intro _ w p q r s
  have hp : w.contains p = true := by decide +kernel
  have hq : w.contains q = true := by decide +kernel
  have hkept := (Window.clipLine_runs ⟨0, 4⟩ ⟨0, 4⟩
    [p, q, s, r, (.finite 3, .finite 6)]).2.2.1
  refine ⟨⟨hp, hq, ?_⟩, ?_⟩
  · exact (Window.clipLine_runs ⟨0, 4⟩ ⟨0, 4⟩ [p, q]).2.2.2 (by simp [hp, hq, w]) (by simp)
  · have hpoints : keptPoints w.contains (fun p => (w.position? p).isSome) false
        [p, q, s, r, (.finite 3, .finite 6)] = [p, q, r] := by decide +kernel
    exact hpoints ▸ hkept

end BenchCharts.Geometry

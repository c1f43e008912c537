import BenchCharts.Proofs.Geometry.Runs

/-!
The points that the runs of a line keep. A point inside the box is kept as it is if the line goes on
to a point with a place on either side; so a line that is inside everywhere is its own only run.
-/
namespace BenchCharts.Geometry

section
variable {β : Type}

/-- The points inside that have a neighbour with a place. It is told of the point before the first
whether it has one. -/
def keptPoints (inside placed : β → Bool) (joined : Bool) : List β → List β
  | [] => []
  | p :: rest =>
      let kept := keptPoints inside placed (placed p) rest
      if inside p && (joined || rest.head?.any placed) then p :: kept else kept

variable {inside placed : β → Bool}

theorem keptPoints_cons (joined : Bool) (p : β) (rest : List β) :
    keptPoints inside placed joined (p :: rest) =
      (if inside p && (joined || rest.head?.any placed) then [p] else []) ++
        keptPoints inside placed (placed p) rest := by
  rw [keptPoints]
  split <;> rfl

/-- The points of the runs, open or closed, in the order of the line. -/
def RunScan.drawnPoints (s : RunScan β) : List β := s.closed.flatten ++ s.current.reverse

/-- A run is open exactly if the latest point is inside and comes after one with a place. -/
structure Joins (inside : β → Bool) (joined : Bool) (p : β) (s : RunScan β) : Prop where
  open_iff : s.current ≠ [] ↔ inside p = true ∧ joined = true
  two_le_length : s.current ≠ [] → 2 ≤ s.current.length

/-- The points that are still to be kept; the latest has been if it is in the open run. -/
def pending (inside placed : β → Bool) (joined : Bool) (p : β) (rest : List β) (s : RunScan β) :
    List β :=
  if s.current.isEmpty then keptPoints inside placed joined (p :: rest)
  else keptPoints inside placed (placed p) rest

variable {joined : Bool} {p q : β} {rest : List β} {s : RunScan β}

theorem Joins.drawnPoints_close (h : Joins inside joined p s) :
    s.close.drawnPoints = s.drawnPoints := by
  by_cases hcurrent : s.current = []
  · simp [RunScan.close_of_empty hcurrent, RunScan.drawnPoints, hcurrent]
  · simp [RunScan.close_of_two_le (h.two_le_length hcurrent), RunScan.drawnPoints]

/-- A point that the line does not go on from is not kept, unless it has been. -/
theorem Joins.pending_eq (h : Joins inside joined p s)
    (hends : inside p = true → rest.head?.any placed = false) :
    pending inside placed joined p rest s = keptPoints inside placed (placed p) rest := by
  unfold pending
  split
  · next hcurrent =>
    have hnot : ¬(inside p = true ∧ joined = true) := fun hjoins =>
      h.open_iff.mpr hjoins (List.isEmpty_iff.mp hcurrent)
    rw [keptPoints_cons]
    cases hinside : inside p
    · simp
    · simp_all
  · rfl

/-- A new run starts with the point that is to be kept, if there is one. -/
theorem Joins.opened {K : Type} [Field K] [LinearOrder K] [FloorRing K]
    (h : Joins inside joined p s) {t : K} (hfirst : inside p = true ↔ ¬0 < t)
    (hq : placed q = true) (cut : K → β) (rest : List β) :
    (s.opened p cut t).current ≠ [] ∧
      (s.drawnPoints ++ pending inside placed joined p (q :: rest) s).Sublist
        ((s.opened p cut t).drawnPoints ++ keptPoints inside placed (placed p) (q :: rest)) := by
  by_cases hcurrent : s.current = []
  · have hclose := RunScan.close_of_empty hcurrent
    have hpending : pending inside placed joined p (q :: rest) s =
        keptPoints inside placed joined (p :: q :: rest) := by simp [pending, hcurrent]
    rw [hpending, keptPoints_cons]
    cases hinside : inside p
    · have hpos : 0 < t := by simpa [hinside] using hfirst
      simp [RunScan.opened, hpos, hclose, RunScan.push, RunScan.drawnPoints, hcurrent]
    · have hzero : ¬0 < t := hfirst.mp hinside
      simp [RunScan.opened, hzero, hclose, RunScan.push, RunScan.drawnPoints, hcurrent, hq]
  · have hinside := (h.open_iff.mp hcurrent).1
    have hsame : s.opened p cut t = s := by simp [RunScan.opened, hfirst.mp hinside, hcurrent]
    simp [hsame, hcurrent, pending]

variable (placed) in
/-- The segment's last point is kept if it is inside. -/
theorem RunScan.ended_kept {K : Type} [Field K] [LinearOrder K] [FloorRing K]
    (hopen : s.current ≠ []) {t : K} (hlast : inside q = true ↔ ¬t < 1) (cut : K → β)
    (rest : List β) :
    Joins inside true q (s.ended q cut t) ∧
      (s.drawnPoints ++ keptPoints inside placed true (q :: rest)).Sublist
        ((s.ended q cut t).drawnPoints ++
          pending inside placed true q rest (s.ended q cut t)) := by
  have hpos : 0 < s.current.length := List.length_pos_iff.mpr hopen
  cases hinside : inside q
  · have hshort : t < 1 := by simpa [hinside] using hlast
    have hended : s.ended q cut t =
        ⟨s.closed ++ [(cut t :: s.current).reverse], []⟩ := by
      have hlong : 2 ≤ (s.push (cut t)).current.length := Nat.succ_le_succ hpos
      rw [RunScan.ended, if_pos hshort, RunScan.close_of_two_le hlong]
      rfl
    rw [hended]
    refine ⟨⟨by simp [hinside], by simp⟩, ?_⟩
    simp [RunScan.drawnPoints, pending]
  · have hwhole : ¬t < 1 := hlast.mp hinside
    have hended : s.ended q cut t = s.push q := by simp [RunScan.ended, hwhole]
    rw [hended]
    refine ⟨⟨by simp [RunScan.push, hinside], fun _ => ?_⟩, ?_⟩
    · simpa [RunScan.push] using Nat.succ_le_succ hpos
    · simp [RunScan.drawnPoints, RunScan.push, pending, keptPoints_cons, hinside]

end

section
variable {K : Type} [Field K] [LinearOrder K] [FloorRing K] {β : Type} {place : β → Option (K × K)}
  {value : K × K → β} {low high : K × K} {inside : β → Bool}
  (hinside : ∀ p, inside p = true ↔ ∃ a ∈ place p, a ∈ Set.Icc low high)

include hinside

theorem zero_mem_shown (p q : β) :
    (0 : K) ∈ shown place low high p q ↔ inside p = true ∧ (place q).isSome = true := by
  rw [hinside, Option.isSome_iff_exists]
  simp only [shown, Set.mem_ofPred_eq, along_zero]
  constructor
  · rintro ⟨-, a, ha, b, hb, hbox⟩
    exact ⟨⟨a, ha, hbox⟩, b, hb⟩
  · rintro ⟨⟨a, ha, hbox⟩, b, hb⟩
    exact ⟨by simp, a, ha, b, hb, hbox⟩

theorem one_mem_shown (p q : β) :
    (1 : K) ∈ shown place low high p q ↔ (place p).isSome = true ∧ inside q = true := by
  rw [hinside, Option.isSome_iff_exists]
  simp only [shown, Set.mem_ofPred_eq, along_one]
  constructor
  · rintro ⟨-, a, ha, b, hb, hbox⟩
    exact ⟨⟨a, ha⟩, b, hb, hbox⟩
  · rintro ⟨⟨a, ha⟩, b, hb, hbox⟩
    exact ⟨by simp, a, ha, b, hb, hbox⟩

/-- The ends of a segment are inside if its visible part reaches them. -/
theorem inside_ends {p q : β} {a b : K × K} {t0 t1 : K} (ha : place p = some a)
    (hb : place q = some b) (ht : t0 ≤ t1) (hshown : shown place low high p q = Set.Icc t0 t1) :
    (inside p = true ↔ ¬0 < t0) ∧ (inside q = true ↔ ¬t1 < 1) := by
  have hlow : t0 ∈ shown place low high p q := hshown ▸ Set.left_mem_Icc.mpr ht
  have hhigh : t1 ∈ shown place low high p q := hshown ▸ Set.right_mem_Icc.mpr ht
  have hzero := zero_mem_shown hinside p q
  have hone := one_mem_shown hinside p q
  rw [hshown] at hzero hone
  simp only [Set.mem_Icc, ha, hb, Option.isSome_some, and_true, true_and] at hzero hone
  rw [← hzero, ← hone, not_lt, not_lt]
  exact ⟨and_iff_left (hlow.1.1.trans ht), and_iff_right (ht.trans hhigh.1.2)⟩

variable [IsStrictOrderedRing K]

variable (value) in
/-- One segment keeps all points that it has to. -/
theorem Joins.step {joined : Bool} {p : β} {s : RunScan β} (h : Joins inside joined p s) (q : β)
    (rest : List β) :
    let s' := clipStep place value low high s (p, q)
    let placed := fun p => (place p).isSome
    Joins inside (placed p) q s' ∧
      (s.drawnPoints ++ pending inside placed joined p (q :: rest) s).Sublist
        (s'.drawnPoints ++ pending inside placed (placed p) q rest s') := by
  intro s' placed
  rcases clipStep_cases place low high value s p q with
    ⟨hempty, hstep⟩ | ⟨a, b, t0, t1, ha, hb, ht, hshown, hstep⟩
  · have hfirst := zero_mem_shown hinside p q
    have hlast := one_mem_shown hinside p q
    simp only [hempty, Set.mem_empty_iff_false, false_iff, not_and] at hfirst hlast
    have hclose : s' = s.close := hstep
    have hcurrent : s'.current = [] := by rw [hclose, s.close_current]
    refine ⟨⟨?_, fun hopen => absurd hcurrent hopen⟩, ?_⟩
    · simpa [hcurrent, placed] using fun hq hp => hlast hp hq
    · have hdrawn : s'.drawnPoints = s.drawnPoints := by rw [hclose, h.drawnPoints_close]
      rw [h.pending_eq (by simpa [placed] using hfirst), hdrawn, pending, hcurrent]
      simp
  · obtain ⟨hfirst, hlast⟩ := inside_ends hinside ha hb ht hshown
    have hp : placed p = true := by simp [placed, ha]
    have hq : placed q = true := by simp [placed, hb]
    obtain ⟨hopen, hkept⟩ := h.opened hfirst hq (fun t => value (along a b t)) rest
    obtain ⟨hjoins, hended⟩ := RunScan.ended_kept placed hopen hlast
      (fun t => value (along a b t)) rest
    have hdrawn : s' = _ := hstep
    rw [hp] at hkept ⊢
    rw [hdrawn]
    exact ⟨hjoins, hkept.trans hended⟩

variable (value) in
/-- The whole line, from any point on. -/
theorem Joins.run {joined : Bool} {p : β} {rest : List β} {s : RunScan β}
    (h : Joins inside joined p s) :
    (s.drawnPoints ++ pending inside (fun p => (place p).isSome) joined p rest s).Sublist
      (((p :: rest).zip rest).foldl (clipStep place value low high) s).close.closed.flatten := by
  induction rest generalizing joined p s with
  | nil =>
    have hdone : s.close.drawnPoints = s.close.closed.flatten := by
      simp [RunScan.drawnPoints]
    rw [h.pending_eq (by simp), keptPoints, List.append_nil, ← h.drawnPoints_close, hdone]
    rfl
  | cons q rest ih =>
    obtain ⟨hjoins, hkept⟩ := h.step value hinside q rest
    exact hkept.trans (ih hjoins)

/-- Every point inside with a neighbour that has a place is kept, in the order of the line. -/
theorem keptPoints_sublist (points : List β) :
    (keptPoints inside (fun p => (place p).isSome) false points).Sublist
      (clipRuns place value low high points).flatten := by
  cases points with
  | nil => exact List.nil_sublist _
  | cons p rest =>
    have hstart : Joins inside false p RunScan.start :=
      ⟨by simp [RunScan.start], by simp [RunScan.start]⟩
    have hpending : RunScan.start.drawnPoints ++
        pending inside (fun p => (place p).isSome) false p rest RunScan.start =
          keptPoints inside (fun p => (place p).isSome) false (p :: rest) := by
      simp [RunScan.drawnPoints, pending, RunScan.start]
    rw [← hpending]
    exact hstart.run value hinside

/-- A segment inside leads the run from one end to the other. -/
theorem clipStep_inside {p q : β} (hp : inside p = true) (hq : inside q = true) (s : RunScan β) :
    clipStep place value low high s (p, q) =
      (if s.current.isEmpty then s.close.push p else s).push q := by
  rcases clipStep_cases place low high value s p q with
    ⟨hempty, -⟩ | ⟨a, b, t0, t1, ha, hb, ht, hshown, hstep⟩
  · obtain ⟨b, hb, -⟩ := (hinside q).mp hq
    have hzero := (zero_mem_shown hinside p q).mpr ⟨hp, Option.isSome_of_mem hb⟩
    simp [hempty] at hzero
  · obtain ⟨hfirst, hlast⟩ := inside_ends hinside ha hb ht hshown
    simp [hstep, RunScan.opened, RunScan.ended, hfirst.mp hp, hlast.mp hq]

/-- A run that is inside goes on to the last point. -/
theorem foldl_clipStep_inside {p : β} {rest earlier : List β} (hp : inside p = true)
    (hrest : ∀ q ∈ rest, inside q = true) (closed : List (List β)) :
    ((p :: rest).zip rest).foldl (clipStep place value low high) ⟨closed, p :: earlier⟩ =
      ⟨closed, rest.reverse ++ p :: earlier⟩ := by
  induction rest generalizing p earlier with
  | nil => rfl
  | cons q rest ih =>
    obtain ⟨hq, hrest⟩ := List.forall_mem_cons.mp hrest
    rw [List.zip_cons_cons, List.foldl_cons, clipStep_inside hinside hp hq]
    simpa [RunScan.push] using ih hq hrest

/-- A line that is inside everywhere is its own run. -/
theorem clipRuns_inside {points : List β} (hpoints : ∀ p ∈ points, inside p = true)
    (hlength : 2 ≤ points.length) : clipRuns place value low high points = [points] := by
  match points, hlength with
  | p :: q :: rest, _ =>
    obtain ⟨hp, hq, hrest⟩ : inside p = true ∧ inside q = true ∧ ∀ r ∈ rest, inside r = true := by
      simpa using hpoints
    have hfirst : clipStep place value low high RunScan.start (p, q) = ⟨[], [q, p]⟩ :=
      clipStep_inside hinside hp hq RunScan.start
    rw [clipRuns, List.tail_cons, List.zip_cons_cons, List.foldl_cons, hfirst,
      foldl_clipStep_inside hinside hq hrest, RunScan.close_of_two_le (by simp)]
    simp

end

end BenchCharts.Geometry

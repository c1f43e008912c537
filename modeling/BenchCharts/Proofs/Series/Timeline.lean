import Mathlib.Algebra.Order.BigOperators.Group.List
import Mathlib.Data.List.Chain
import Mathlib.Tactic.Linarith
import BenchCharts.Series.Recovery
import BenchCharts.Proofs.ExactArithmetic

/-!
The timeline of a recovery in exact arithmetic. The phases that follow one another end after the
sum of the durations so far, which stops at the largest number of 64 bits. Their rectangles stand
on one another, so their heights add up to the end of the last phase.
-/
namespace BenchCharts.Series

open Results (PhaseDeltas RawPhase)

/-! ## Durations that add up -/

/-- The phases that follow one another, each with the duration that it adds. -/
def timelineSteps : List (RecoveryPhase × RawPhase) :=
  [(.getPeer, .getPeer), (.connect, .connect), (.rdmaRead, .recover), (.syncPeer, .syncPeers)]

/-- The durations of all phases of the timeline are known. -/
def HasTimeline (d : PhaseDeltas) : Prop := ∀ step ∈ timelineSteps, (d.get? step.2).isSome = true

def durationOf (d : PhaseDeltas) (step : RecoveryPhase × RawPhase) : Nat := (d.get? step.2).getD 0

/-- Nanoseconds that the first steps take. -/
def elapsed (d : PhaseDeltas) (steps : Nat) : Nat :=
  ((timelineSteps.take steps).map (durationOf d)).sum

/-- The phases of the timeline that have a time. -/
def RecoveryTrace.rising {α : Type} (t : RecoveryTrace α) : List (RecoveryPhase × α) :=
  timelineSteps.filterMap fun step => (t.get? step.1).map fun time => (step.1, time)

theorem elapsed_mono (d : PhaseDeltas) : Monotone (elapsed d) := fun _ _ h =>
  ((List.take_prefix_take_left h).sublist.map (durationOf d)).sum_le_sum fun _ _ => Nat.zero_le _

/-- A sum that stopped stays where it is. -/
theorem addDurations_min (total duration : Nat) :
    addDurations (min total Decimal.maxWord) duration = min (total + duration) Decimal.maxWord := by
  unfold addDurations
  omega

section
variable {K : Type} [Field K] [LinearOrder K] [FloorRing K]

/-- Milliseconds at the end of the first steps. -/
def endOf (d : PhaseDeltas) (steps : Nat) : K :=
  milliseconds (min (elapsed d steps) Decimal.maxWord)

/-- From some nanoseconds on, each step ends after all durations up to its own. -/
theorem endings_of_known {d : PhaseDeltas} {steps : List (RecoveryPhase × RawPhase)}
    (h : ∀ step ∈ steps, (d.get? step.2).isSome = true) (total : Nat) :
    (endings d (min total Decimal.maxWord) steps : Option (List (RecoveryPhase × K))) =
      some (steps.mapIdx fun index step => (step.1, milliseconds
        (min (total + ((steps.take (index + 1)).map (durationOf d)).sum) Decimal.maxWord))) := by
  induction steps generalizing total with
  | nil => rfl
  | cons step rest ih =>
    rw [List.forall_mem_cons, Option.isSome_iff_exists] at h
    obtain ⟨⟨duration, hduration⟩, hrest⟩ := h
    have hown : durationOf d step = duration := by rw [durationOf, hduration, Option.getD_some]
    simp only [endings, hduration, Option.bind_eq_bind, Option.bind_some, addDurations_min,
      ih hrest, List.mapIdx_cons, List.take_succ_cons, List.map_cons, List.sum_cons, hown,
      List.take_zero, List.map_nil, List.sum_nil, Nat.add_zero, Nat.add_assoc]
    rfl

theorem endings_of_missing {d : PhaseDeltas} {steps : List (RecoveryPhase × RawPhase)}
    (h : ∃ step ∈ steps, d.get? step.2 = none) (total : Nat) :
    (endings d total steps : Option (List (RecoveryPhase × K))) = none := by
  induction steps generalizing total with
  | nil => simp at h
  | cons step rest ih =>
    rw [List.exists_mem_cons_iff] at h
    cases hduration : d.get? step.2 with
    | none => simp [endings, hduration]
    | some duration =>
      have hrest : ∃ step ∈ rest, d.get? step.2 = none := by simpa [hduration] using h
      simp [endings, hduration, ih hrest]

theorem ofDeltas_of_known {d : PhaseDeltas} (h : HasTimeline d) :
    (RecoveryTrace.ofDeltas d : RecoveryTrace K) = ⟨some (endOf d 1), some (endOf d 2),
      some (endOf d 3), some (endOf d 4), d.endRecover.map milliseconds⟩ := by
  have htimes := endings_of_known (K := K) h 0
  simp only [Nat.zero_min, Nat.zero_add] at htimes
  unfold RecoveryTrace.ofDeltas
  rw [show cumulative = timelineSteps from rfl, htimes]
  cases d.endRecover <;> rfl

theorem ofDeltas_of_not {d : PhaseDeltas} (h : ¬ HasTimeline d) :
    (RecoveryTrace.ofDeltas d : RecoveryTrace K) =
      ⟨none, none, none, none, d.endRecover.map milliseconds⟩ := by
  have hmissing : ∃ step ∈ timelineSteps, d.get? step.2 = none := by
    simpa [HasTimeline] using h
  unfold RecoveryTrace.ofDeltas
  rw [show cumulative = timelineSteps from rfl, endings_of_missing hmissing]
  cases d.endRecover <;> rfl

theorem rising_ofDeltas (d : PhaseDeltas) (h : HasTimeline d) :
    (RecoveryTrace.ofDeltas d : RecoveryTrace K).rising =
      timelineSteps.zipIdx.map fun (step, index) => (step.1, endOf d (index + 1)) := by
  simp [RecoveryTrace.rising, timelineSteps, RecoveryTrace.get?, ofDeltas_of_known h]

theorem rising_ofDeltas_of_not (d : PhaseDeltas) (h : ¬ HasTimeline d) :
    (RecoveryTrace.ofDeltas d : RecoveryTrace K).rising = [] := by
  simp [RecoveryTrace.rising, timelineSteps, RecoveryTrace.get?, ofDeltas_of_not h]

end

/-! ## Rectangles that stand on one another -/

/-- Rectangles up to the given times, each from where the one before it ends. -/
def pile {α : Type} (bottom : α) : List (RecoveryPhase × α) → List (PhaseSegment α)
  | [] => []
  | (phase, top) :: rest => ⟨phase, bottom, top⟩ :: pile top rest

section
variable {α : Type} (bottom : α) (times : List (RecoveryPhase × α))

theorem tops_pile : (pile bottom times).map (fun s => (s.phase, s.top)) = times := by
  induction times generalizing bottom with
  | nil => rfl
  | cons entry rest ih => rw [pile, List.map_cons, ih]

theorem bottom_head?_pile : ∀ s ∈ (pile bottom times).head?, s.bottom = bottom := by
  cases times with
  | nil => simp [pile]
  | cons entry rest => simp [pile]

theorem isChain_pile :
    (pile bottom times).IsChain fun lower upper => upper.bottom = lower.top := by
  induction times generalizing bottom with
  | nil => exact .nil
  | cons entry rest ih => exact List.isChain_cons.mpr ⟨bottom_head?_pile entry.2 rest, ih entry.2⟩

/-- Phases without a time leave no gap between the rectangles. -/
theorem RecoveryTrace.stack_eq (t : RecoveryTrace α) (phases : List RecoveryPhase) :
    t.stack bottom phases =
      pile bottom (phases.filterMap fun phase => (t.get? phase).map fun time => (phase, time)) := by
  induction phases generalizing bottom with
  | nil => rfl
  | cons phase rest ih =>
    cases htime : t.get? phase with
    | none => simp [stack, htime, ih]
    | some top => simp [stack, htime, ih, pile]

/-- The rectangles of the timeline are drawn from the top down, over the one of parsing. -/
theorem RecoveryTrace.segments_eq [Zero α] (t : RecoveryTrace α) :
    t.segments = (t.parse.toList.map fun top => ⟨.parse, 0, top⟩) ++ (pile 0 t.rising).reverse := by
  unfold segments
  rw [stack_eq, List.filterMap_map]
  rfl

end

section
variable {K : Type} [Field K]

def PhaseSegment.height (s : PhaseSegment K) : K := s.top - s.bottom

/-- The heights add up to the last time. -/
theorem sum_height_pile (bottom : K) (times : List (RecoveryPhase × K)) :
    bottom + ((pile bottom times).map PhaseSegment.height).sum =
      (times.getLast?.map (·.2)).getD bottom := by
  induction times generalizing bottom with
  | nil => simp [pile]
  | cons entry rest ih =>
    rw [pile, List.map_cons, List.sum_cons, PhaseSegment.height, ← add_assoc, add_sub_cancel, ih,
      List.getLast?_cons]
    cases rest.getLast? <;> rfl

theorem height_nonneg_pile [LinearOrder K] [IsStrictOrderedRing K] {bottom : K}
    {times : List (RecoveryPhase × K)} (h : (bottom :: times.map (·.2)).Pairwise (· ≤ ·)) :
    ∀ s ∈ pile bottom times, 0 ≤ s.height := by
  induction times generalizing bottom with
  | nil => simp [pile]
  | cons entry rest ih =>
    rw [List.map_cons, List.pairwise_cons] at h
    exact List.forall_mem_cons.mpr ⟨sub_nonneg.mpr (h.1 entry.2 List.mem_cons_self), ih h.2⟩

end

/-! ## The trace of a recovery -/

section
variable {K : Type} [Field K] [LinearOrder K] [FloorRing K]

theorem milliseconds_eq (n : Nat) : (milliseconds n : K) = n / 10 ^ 6 := by
  change (n : K) / ((1000000 : Nat) : K) = n / 10 ^ 6
  norm_num

theorem endOf_eq (d : PhaseDeltas) (steps : Nat) :
    (endOf d steps : K) = ((min (elapsed d steps) (2 ^ 64 - 1) : Nat) : K) / 10 ^ 6 :=
  milliseconds_eq _

theorem endOf_zero (d : PhaseDeltas) : (endOf d 0 : K) = 0 := by
  rw [endOf_eq, elapsed, List.take_zero, List.map_nil, List.sum_nil, Nat.zero_min, Nat.cast_zero,
    zero_div]

/-- As long as no sum stops, a step lasts as long as its own duration. -/
theorem endOf_sub (d : PhaseDeltas) {index : Nat} (h : index < timelineSteps.length)
    (hwhole : elapsed d timelineSteps.length ≤ 2 ^ 64 - 1) :
    (endOf d (index + 1) - endOf d index : K) = durationOf d timelineSteps[index] / 10 ^ 6 := by
  have hstep : elapsed d (index + 1) = elapsed d index + durationOf d timelineSteps[index] := by
    simp only [elapsed, List.take_succ_eq_append_getElem h, List.map_append, List.sum_append,
      List.map_cons, List.map_nil, List.sum_singleton]
  have hbefore := (elapsed_mono d h.le).trans hwhole
  have hafter := (elapsed_mono d (Nat.succ_le_of_lt h)).trans hwhole
  rw [endOf_eq, endOf_eq, min_eq_left hbefore, min_eq_left hafter, hstep, Nat.cast_add]
  ring

/-- As long as no sum stops, a rectangle is as high as its phase lasts. -/
theorem heights_pile (d : PhaseDeltas) (h : HasTimeline d)
    (hwhole : elapsed d timelineSteps.length ≤ 2 ^ 64 - 1) :
    (pile 0 (RecoveryTrace.ofDeltas d : RecoveryTrace K).rising).map (·.height) =
      timelineSteps.map fun step => (durationOf d step : K) / 10 ^ 6 := by
  have hheights : (pile (endOf d 0) (RecoveryTrace.ofDeltas d : RecoveryTrace K).rising).map
      (·.height) = (List.range timelineSteps.length).map fun index =>
        endOf d (index + 1) - endOf d index := by
    rw [rising_ofDeltas d h]
    rfl
  rw [← endOf_zero d, hheights]
  apply List.ext_getElem (by simp)
  intro index hindex _
  rw [List.length_map, List.length_range] at hindex
  simp only [List.getElem_map, List.getElem_range]
  exact endOf_sub d hindex hwhole

variable [IsStrictOrderedRing K]

theorem endOf_mono (d : PhaseDeltas) : Monotone (endOf d : Nat → K) := by
  intro m n h
  rw [endOf_eq, endOf_eq]
  exact div_le_div_of_nonneg_right (Nat.cast_le.mpr (min_le_min_right _ (elapsed_mono d h)))
    (by positivity)

/-- The times of the timeline rise from zero. -/
theorem pairwise_rising (d : PhaseDeltas) :
    (0 :: (RecoveryTrace.ofDeltas d : RecoveryTrace K).rising.map (·.2)).Pairwise (· ≤ ·) := by
  by_cases h : HasTimeline d
  · have htimes : (0 : K) :: (RecoveryTrace.ofDeltas d : RecoveryTrace K).rising.map (·.2) =
        (List.range (timelineSteps.length + 1)).map (endOf d) := by
      rw [rising_ofDeltas d h, ← endOf_zero d]
      rfl
    rw [htimes, List.pairwise_map]
    exact List.pairwise_lt_range.imp fun h => endOf_mono d h.le
  · simp [rising_ofDeltas_of_not d h]

/-- The times of a recovery with the given durations. -/
structure RecoveryTrace.Times (d : PhaseDeltas) (t : RecoveryTrace K) : Prop where
  times_eq : HasTimeline d → ∀ index (h : index < timelineSteps.length),
    t.get? timelineSteps[index].1 =
      some (((min (elapsed d (index + 1)) (2 ^ 64 - 1) : Nat) : K) / 10 ^ 6)
  times_none : ¬ HasTimeline d → ∀ step ∈ timelineSteps, t.get? step.1 = none
  rises : (t.rising.map (·.2)).Pairwise (· ≤ ·)
  parse_eq : t.get? .parse = (d.get? .endRecover).map fun n => (n : K) / 10 ^ 6

/-- Rectangles of the timeline that stand on one another, from the bottom up. -/
structure RecoveryTrace.Stands (t : RecoveryTrace K) (stack : List (PhaseSegment K)) : Prop where
  tops_eq : stack.map (fun s => (s.phase, s.top)) = t.rising
  starts : ∀ s ∈ stack.head?, s.bottom = 0
  follows : stack.IsChain fun lower upper => upper.bottom = lower.top
  nonneg : ∀ s ∈ stack, 0 ≤ s.height
  sum_eq : (stack.map (·.height)).sum = (t.get? .syncPeer).getD 0

theorem times_ofDeltas (d : PhaseDeltas) :
    (RecoveryTrace.ofDeltas d : RecoveryTrace K).Times d where
  times_eq h index hindex := by
    have hcases : index = 0 ∨ index = 1 ∨ index = 2 ∨ index = 3 := by
      simp only [timelineSteps, List.length_cons, List.length_nil] at hindex
      omega
    rw [← endOf_eq]
    rcases hcases with rfl | rfl | rfl | rfl <;>
      simp [timelineSteps, RecoveryTrace.get?, ofDeltas_of_known h]
  times_none h := by
    simp [timelineSteps, RecoveryTrace.get?, ofDeltas_of_not h]
  rises := (pairwise_rising d).of_cons
  parse_eq := by
    have hparse : (RecoveryTrace.ofDeltas d : RecoveryTrace K).get? .parse =
        d.endRecover.map milliseconds := by
      by_cases h : HasTimeline d
      · rw [ofDeltas_of_known h]
        rfl
      · rw [ofDeltas_of_not h]
        rfl
    rw [hparse]
    cases h : d.endRecover <;> simp [PhaseDeltas.get?, h, milliseconds_eq]

theorem stands_pile (d : PhaseDeltas) :
    (RecoveryTrace.ofDeltas d : RecoveryTrace K).Stands
      (pile 0 (RecoveryTrace.ofDeltas d).rising) where
  tops_eq := tops_pile 0 _
  starts := bottom_head?_pile 0 _
  follows := isChain_pile 0 _
  nonneg := height_nonneg_pile (pairwise_rising d)
  sum_eq := by
    have hsum := sum_height_pile 0 (RecoveryTrace.ofDeltas d : RecoveryTrace K).rising
    rw [zero_add] at hsum
    rw [hsum]
    by_cases h : HasTimeline d
    · rw [rising_ofDeltas d h, ofDeltas_of_known h]
      rfl
    · rw [rising_ofDeltas_of_not d h, ofDeltas_of_not h]
      rfl

end

/-- Recoveries are reconstructed phase by phase. The four phases that follow one another have times
if all their durations are known, each the sum of the durations so far, which stops at the largest
number of 64 bits; parsing has its own duration. The rectangles show parsing first and then the
timeline from the top down, each from where the one below ends. -/
theorem recovery_reconstructed (d : PhaseDeltas) :
    let t : RecoveryTrace ℚ := .ofDeltas d
    t.Times d ∧ ∃ stack, t.Stands stack ∧
      t.segments = (t.parse.toList.map fun top => ⟨.parse, 0, top⟩) ++ stack.reverse ∧
      (HasTimeline d → elapsed d timelineSteps.length ≤ 2 ^ 64 - 1 →
        stack.map (·.height) = timelineSteps.map fun step => (durationOf d step : ℚ) / 10 ^ 6) :=
  ⟨times_ofDeltas d, _, stands_pile d, RecoveryTrace.segments_eq _, heights_pile d⟩

/-- A recovery with all phases, whose parsing is over before the second one ends. -/
theorem recovery_reconstructed_full :
    let d : PhaseDeltas := ⟨some 1000000, some 500000, some 2000000, some 300000, some 400000⟩
    HasTimeline d ∧ elapsed d timelineSteps.length ≤ 2 ^ 64 - 1 ∧
      ∃ stack, (RecoveryTrace.ofDeltas d : RecoveryTrace ℚ).Stands stack ∧
        stack.map (·.height) = [1, 1 / 2, 2, 3 / 10] := by
  intro d
  have hknown : HasTimeline d := by simp [HasTimeline, timelineSteps, d, PhaseDeltas.get?]
  have hwhole : elapsed d timelineSteps.length ≤ 2 ^ 64 - 1 := by decide
  obtain ⟨-, stack, hstands, -, hheights⟩ := recovery_reconstructed d
  refine ⟨hknown, hwhole, stack, hstands, ?_⟩
  rw [hheights hknown hwhole]
  norm_num [timelineSteps, durationOf, PhaseDeltas.get?, d]

end BenchCharts.Series

import Mathlib.Order.Interval.Set.OrdConnectedComponent
import BenchCharts.Proofs.Geometry.Clipping

/-!
The runs of a line as the stretches in which it is visible. A parameter runs along the line, one
unit for each segment. While the segments go by, the closed runs follow maximal stretches of visible
parameters, and a run is open exactly if the line is visible where it has come to.
-/
namespace BenchCharts.Geometry

section
variable {K : Type} [Field K] [LinearOrder K] [FloorRing K] {β : Type}
  (place : β → Option (K × K)) (low high : K × K) (points : List β)

/-! ## Visible parameters -/

/-- The line is at this place for this parameter. Its whole part counts the segments, which lead
from one point to the next if both have a place. -/
def IsAt (u : K) (x : K × K) : Prop :=
  ∃ (i : ℕ) (p q : β) (a b : K × K), points[i]? = some p ∧ points[i + 1]? = some q ∧
    place p = some a ∧ place q = some b ∧ u - i ∈ Set.Icc 0 1 ∧ x = along a b (u - i)

/-- The parameters for which the line is in the box. -/
def visible : Set K := {u | ∃ x ∈ Set.Icc low high, IsAt place points u x}

/-- The part of one segment that is in the box. -/
def shown (p q : β) : Set K :=
  {t | t ∈ Set.Icc 0 1 ∧ ∃ a ∈ place p, ∃ b ∈ place q, along a b t ∈ Set.Icc low high}

/-- The visible parameters of the first segments. -/
def visibleBefore (n : ℕ) : Set K :=
  {u | ∃ i < n, ∃ p q, points[i]? = some p ∧ points[i + 1]? = some q ∧
    u - i ∈ shown place low high p q}

/-- A part of the visible parameters consists of these closed intervals, which are in order and
between which the line is not always visible. -/
structure Divides (part : Set K) (stretches : List (K × K)) : Prop where
  ordered : ∀ stretch ∈ stretches, stretch.1 ≤ stretch.2
  covers : part = ⋃ stretch ∈ stretches, Set.Icc stretch.1 stretch.2
  apart : stretches.Pairwise fun stretch next =>
    ∃ u ∉ visible place low high points, stretch.2 < u ∧ u < next.1

/-- The line is visible all the way from one stretch to another. -/
def Joined (stretch other : K × K) : Prop :=
  ∃ u ∈ Set.Icc stretch.1 stretch.2, ∃ v ∈ Set.Icc other.1 other.2,
    Set.uIcc u v ⊆ visible place low high points

/-- A run begins where the line is at this parameter, after these points. If that is at the latest
of them, the run begins with it. -/
structure Begins (u : K) (before : List β) (first : β) : Prop where
  at_place : ∃ x ∈ place first, IsAt place points u x
  passed : (before.length : K) ≤ u + 1
  ahead : u ≤ before.length
  at_point : u + 1 = before.length → before.getLast? = some first

/-- A run ends where the line is at this parameter, with so many points passed. If that is at the
next point, the run ends with it. -/
structure Ends (u : K) (count : ℕ) (last : β) : Prop where
  at_place : ∃ x ∈ place last, IsAt place points u x
  passed : (count : K) ≤ u + 1
  ahead : u ≤ count
  at_point : u = count → points[count]? = some last

/-- A run goes along a stretch of the line: from one end through the points between to the other. -/
def Follows (stretch : K × K) (run : List β) : Prop :=
  ∃ before inner after first last, points = before ++ inner ++ after ∧
    run = first :: (inner ++ [last]) ∧ Begins place points stretch.1 before first ∧
    Ends place points stretch.2 (before ++ inner).length last

end

section
variable {K : Type} [Field K] [LinearOrder K] [FloorRing K] {β : Type}
  {place : β → Option (K × K)} {low high : K × K} {points : List β}

theorem Follows.two_le_length {stretch : K × K} {run : List β}
    (h : Follows place points stretch run) : 2 ≤ run.length := by
  obtain ⟨before, inner, after, first, last, -, rfl, -⟩ := h
  simp

theorem visibleBefore_succ {n : ℕ} {p q : β} (hp : points[n]? = some p)
    (hq : points[n + 1]? = some q) :
    visibleBefore place low high points (n + 1) =
      visibleBefore place low high points n ∪ {u | u - n ∈ shown place low high p q} := by
  ext u
  constructor
  · rintro ⟨i, hi, r, t, hr, ht, hshown⟩
    rcases Nat.lt_succ_iff_lt_or_eq.mp hi with hlt | rfl
    · exact .inl ⟨i, hlt, r, t, hr, ht, hshown⟩
    · obtain rfl := Option.some.inj (hp.symm.trans hr)
      obtain rfl := Option.some.inj (hq.symm.trans ht)
      exact .inr hshown
  · rintro (⟨i, hi, hsegment⟩ | hshown)
    · exact ⟨i, hi.trans (Nat.lt_succ_self n), hsegment⟩
    · exact ⟨n, Nat.lt_succ_self n, p, q, hp, hq, hshown⟩

theorem isAt_segment {n : ℕ} {p q : β} {a b : K × K} (hp : points[n]? = some p)
    (hq : points[n + 1]? = some q) (ha : place p = some a) (hb : place q = some b) {t : K}
    (ht : t ∈ Set.Icc 0 1) : IsAt place points (n + t) (along a b t) :=
  ⟨n, p, q, a, b, hp, hq, ha, hb, by simpa using ht, by simp⟩

theorem visibleBefore_zero : visibleBefore place low high points 0 = ∅ := by
  simp [visibleBefore]

theorem visibleBefore_length {n : ℕ} (h : points.length ≤ n + 1) :
    visibleBefore place low high points n = visible place low high points := by
  ext u
  constructor
  · rintro ⟨i, -, p, q, hp, hq, hrange, a, ha, b, hb, hbox⟩
    exact ⟨_, hbox, i, p, q, a, b, hp, hq, ha, hb, hrange, rfl⟩
  · rintro ⟨x, hbox, i, p, q, a, b, hp, hq, ha, hb, hrange, rfl⟩
    have hi : i + 1 < points.length := (List.getElem?_eq_some_iff.mp hq).1
    exact ⟨i, by omega, p, q, hp, hq, hrange, a, ha, b, hb, hbox⟩

theorem Joined.symm {stretch other : K × K} (h : Joined place low high points stretch other) :
    Joined place low high points other stretch := by
  obtain ⟨u, hu, v, hv, hsubset⟩ := h
  exact ⟨v, hv, u, hu, Set.uIcc_comm u v ▸ hsubset⟩

/-- No segment that leads to a point in the box is visible if the point is not. -/
theorem shown_eq_empty {n : ℕ} {p r : β} {a : K × K} (hr : points[n]? = some r)
    (hp : points[n + 1]? = some p) (ha : place p = some a) (hbox : a ∈ Set.Icc low high)
    (hhidden : ((n + 1 : ℕ) : K) ∉ visibleBefore place low high points (n + 1)) :
    shown place low high r p = ∅ := by
  refine Set.eq_empty_iff_forall_notMem.mpr fun t ⟨_, c, hc, _⟩ => hhidden ?_
  refine ⟨n, Nat.lt_succ_self n, r, p, hr, hp, ?_, c, hc, a, ha, ?_⟩
  · simp
  · simpa using hbox

namespace Divides
variable {stretches : List (K × K)}

theorem mem_of_mem_stretch {part : Set K} (h : Divides place low high points part stretches)
    {stretch : K × K} (hmem : stretch ∈ stretches) {u : K}
    (hu : u ∈ Set.Icc stretch.1 stretch.2) : u ∈ part := by
  rw [h.covers]
  exact Set.mem_biUnion hmem hu

omit [Field K] [FloorRing K] in
theorem covers_concat (stretch : K × K) :
    ⋃ s ∈ stretches ++ [stretch], Set.Icc s.1 s.2 =
      (⋃ s ∈ stretches, Set.Icc s.1 s.2) ∪ Set.Icc stretch.1 stretch.2 := by
  simp [Set.iUnion_or, Set.iUnion_union_distrib]

theorem nil : Divides place low high points ∅ [] := ⟨by simp, by simp, .nil⟩

/-- The last stretch grows. -/
theorem extend {part : Set K} {start stop later : K}
    (h : Divides place low high points part (stretches ++ [(start, stop)])) (hle : stop ≤ later) :
    Divides place low high points (part ∪ Set.Icc stop later) (stretches ++ [(start, later)]) where
  ordered := by
    have hordered := h.ordered
    simp only [List.forall_mem_append, List.forall_mem_singleton] at hordered ⊢
    exact ⟨hordered.1, hordered.2.trans hle⟩
  covers := by
    have hstart : start ≤ stop := h.ordered (start, stop) (by simp)
    rw [h.covers, covers_concat, covers_concat, Set.union_assoc,
      Set.Icc_union_Icc_eq_Icc hstart hle]
  apart := by
    have hapart := h.apart
    simp only [List.pairwise_append, List.pairwise_singleton, List.forall_mem_singleton] at hapart ⊢
    exact hapart

/-- A new stretch comes after a parameter for which the line is not visible. -/
theorem concat {part : Set K} {start stop : K} (h : Divides place low high points part stretches)
    (hle : start ≤ stop)
    (hgap : ∀ u ∈ part, ∃ w ∉ visible place low high points, u < w ∧ w < start) :
    Divides place low high points (part ∪ Set.Icc start stop) (stretches ++ [(start, stop)]) where
  ordered := by
    simp only [List.forall_mem_append, List.forall_mem_singleton]
    exact ⟨h.ordered, hle⟩
  covers := by rw [h.covers, covers_concat]
  apart := by
    simp only [List.pairwise_append, List.pairwise_singleton, List.forall_mem_singleton]
    refine ⟨h.apart, trivial, fun stretch hmem => ?_⟩
    have hend := Set.right_mem_Icc.mpr (h.ordered stretch hmem)
    exact hgap stretch.2 (h.mem_of_mem_stretch hmem hend)

/-- Different stretches are not joined. -/
theorem eq_of_joined {part : Set K} (h : Divides place low high points part stretches)
    {stretch other : K × K} (hmem : stretch ∈ stretches) (hother : other ∈ stretches)
    (hjoined : Joined place low high points stretch other) : stretch = other := by
  have hapart : stretches.Pairwise fun s t => Joined place low high points s t → s = t := by
    refine h.apart.imp fun {s t} ⟨w, hw, hafter, hbefore⟩ ⟨u, hu, v, hv, hsubset⟩ => ?_
    exact absurd (hsubset (Set.Icc_subset_uIcc ⟨hu.2.trans hafter.le, hbefore.le.trans hv.1⟩)) hw
  have hback : stretches.Pairwise fun s t => Joined place low high points t s → t = s :=
    hapart.imp fun heq hjoined => (heq hjoined.symm).symm
  exact hapart.forall_of_forall_of_flip (fun _ _ _ => rfl) hback hmem hother hjoined

/-- The stretches are maximal: each is the whole of what is visible around its parameters. -/
theorem component
    (h : Divides place low high points (visible place low high points) stretches)
    {stretch : K × K} (hmem : stretch ∈ stretches) {u : K} (hu : u ∈ Set.Icc stretch.1 stretch.2) :
    (visible place low high points).ordConnectedComponent u = Set.Icc stretch.1 stretch.2 := by
  ext v
  rw [Set.mem_ordConnectedComponent]
  constructor
  · intro hbetween
    have hv := hbetween Set.right_mem_uIcc
    rw [h.covers] at hv
    obtain ⟨other, hother, hv⟩ := Set.mem_iUnion₂.mp hv
    rwa [h.eq_of_joined hmem hother ⟨u, hu, v, hv, hbetween⟩]
  · intro hv w hw
    exact h.mem_of_mem_stretch hmem (Set.uIcc_subset_Icc hu hv hw)

end Divides

variable [IsStrictOrderedRing K]

theorem visibleBefore_le {n : ℕ} {u : K} (h : u ∈ visibleBefore place low high points n) :
    u ≤ n := by
  obtain ⟨i, hi, p, q, -, -, hshown, -⟩ := h
  have hcast : (i : K) + 1 ≤ n := by exact_mod_cast hi
  linarith [hshown.2]

theorem visibleBefore_succ_Icc {n : ℕ} {p q : β} (hp : points[n]? = some p)
    (hq : points[n + 1]? = some q) {t0 t1 : K} (h : shown place low high p q = Set.Icc t0 t1) :
    visibleBefore place low high points (n + 1) =
      visibleBefore place low high points n ∪ Set.Icc (n + t0) (n + t1) := by
  rw [visibleBefore_succ hp hq, h]
  congr 1
  ext u
  simp only [Set.mem_ofPred_eq, Set.mem_Icc]
  rw [le_sub_iff_add_le', sub_le_iff_le_add']

/-- Strictly between two points only their own segment counts. -/
theorem not_visible_of_between {n : ℕ} {p q : β} (hp : points[n]? = some p)
    (hq : points[n + 1]? = some q) {t : K} (hpos : 0 < t) (hlt : t < 1)
    (h : t ∉ shown place low high p q) : n + t ∉ visible place low high points := by
  rintro ⟨x, hbox, i, r, s, a, b, hr, hs, ha, hb, hrange, rfl⟩
  have hbelow : i < n + 1 := by exact_mod_cast (by linarith [hrange.1] : (i : K) < n + 1)
  have habove : n < i + 1 := by exact_mod_cast (by linarith [hrange.2] : (n : K) < i + 1)
  obtain rfl : i = n := by omega
  obtain rfl := Option.some.inj (hp.symm.trans hr)
  obtain rfl := Option.some.inj (hq.symm.trans hs)
  rw [add_sub_cancel_left] at hrange hbox
  exact h ⟨hrange, a, ha, b, hb, hbox⟩

/-- The line is visible at a point only if that is in the box. -/
theorem place_mem_box {n : ℕ} {p : β} {a : K × K} (hp : points[n]? = some p) (ha : place p = some a)
    (h : (n : K) ∈ visibleBefore place low high points n) : a ∈ Set.Icc low high := by
  obtain ⟨i, hi, r, q, -, hq, hrange, b, -, c, hc, hbox⟩ := h
  have hreached : n ≤ i + 1 := by exact_mod_cast (by linarith [hrange.2] : (n : K) ≤ i + 1)
  obtain rfl : i + 1 = n := by omega
  obtain rfl := Option.some.inj (hp.symm.trans hq)
  obtain rfl := Option.some.inj (ha.symm.trans hc)
  simpa using hbox

/-- Where a new run begins, the line has left the box or was broken since the last one. -/
theorem exists_gap {n : ℕ} {p q : β} {t0 t1 : K} (hp : points[n]? = some p)
    (hq : points[n + 1]? = some q) (hhidden : (n : K) ∉ visibleBefore place low high points n)
    (ht : t0 ≤ t1) (hshown : shown place low high p q = Set.Icc t0 t1) :
    ∀ u ∈ visibleBefore place low high points n,
      ∃ w ∉ visible place low high points, u < w ∧ w < n + t0 := by
  have hfirst : t0 ∈ shown place low high p q := hshown ▸ Set.left_mem_Icc.mpr ht
  obtain ⟨hrange, a, ha, b, -, hbox⟩ := hfirst
  intro u hu
  rcases hrange.1.lt_or_eq with hpos | rfl
  · -- The segment itself comes into the box.
    have hbefore : t0 / 2 ∉ shown place low high p q := by
      rw [hshown]
      exact fun hmem => by linarith [hmem.1]
    refine ⟨n + t0 / 2, ?_, by linarith [visibleBefore_le hu], by linarith⟩
    exact not_visible_of_between hp hq (by linarith) (by linarith [hrange.2]) hbefore
  · -- The point is in the box and was not seen, so no segment leads to it.
    rw [along_zero] at hbox
    obtain ⟨i, hi, r, s, hr, hs, hsegment⟩ := hu
    obtain ⟨m, rfl⟩ : ∃ m, n = m + 1 := ⟨n - 1, by omega⟩
    have hlt : m < points.length := (Nat.lt_succ_self m).trans (List.getElem?_eq_some_iff.mp hp).1
    have hm := List.getElem?_eq_getElem hlt
    have hempty := shown_eq_empty hm hp ha hbox hhidden
    have hne : i ≠ m := by
      rintro rfl
      obtain rfl := Option.some.inj (hm.symm.trans hr)
      obtain rfl := Option.some.inj (hp.symm.trans hs)
      simp [hempty] at hsegment
    have hle : ((i + 1 : ℕ) : K) ≤ m := Nat.cast_le.mpr (by omega)
    push_cast at hle ⊢
    refine ⟨m + 1 / 2, ?_, by linarith [hsegment.1.2], by linarith⟩
    exact not_visible_of_between hm hp (by norm_num) (by norm_num) (by simp [hempty])

/-! ## Scanning -/

namespace RunScan
variable {s : RunScan β}

omit [Field K] [LinearOrder K] [FloorRing K] [IsStrictOrderedRing K] in
theorem close_of_empty (h : s.current = []) : s.close = ⟨s.closed, []⟩ := by simp [close, h]

omit [Field K] [LinearOrder K] [FloorRing K] [IsStrictOrderedRing K] in
theorem close_of_two_le (h : 2 ≤ s.current.length) :
    s.close = ⟨s.closed ++ [s.current.reverse], []⟩ := by simp [close, h]

end RunScan

/-- The scan at the first visible place of a segment: the run that led there goes on, or else a new
one begins, at the segment's own point if that is visible. -/
def RunScan.opened (s : RunScan β) (p : β) (cut : K → β) (t : K) : RunScan β :=
  if 0 < t then s.close.push (cut t) else if s.current.isEmpty then s.close.push p else s

/-- The scan at the last visible place of a segment. -/
def RunScan.ended (s : RunScan β) (q : β) (cut : K → β) (t : K) : RunScan β :=
  if t < 1 then (s.push (cut t)).close else s.push q

variable {value : K × K → β}

variable (place low high value) in
/-- A segment that is nowhere visible closes the run; any other has a first and a last visible
place. -/
theorem clipStep_cases (s : RunScan β) (p q : β) :
    shown place low high p q = ∅ ∧ clipStep place value low high s (p, q) = s.close ∨
    ∃ a b t0 t1, place p = some a ∧ place q = some b ∧ t0 ≤ t1 ∧
      shown place low high p q = Set.Icc t0 t1 ∧
      clipStep place value low high s (p, q) =
        (s.opened p (fun t => value (along a b t)) t0).ended q
          (fun t => value (along a b t)) t1 := by
  have hshown {a b : K × K} (ha : place p = some a) (hb : place q = some b) :
      shown place low high p q = Set.Icc 0 1 ∩ {t | along a b t ∈ Set.Icc low high} := by
    ext t
    simp [shown, ha, hb]
  unfold clipStep
  split
  · next a b ha hb =>
    have hbounding := clipParameters_bounding a b low high
    rw [← hshown ha hb] at hbounding
    split
    · next hnone =>
      rw [hnone] at hbounding
      exact .inl ⟨hbounding, rfl⟩
    · next t0 t1 hfound =>
      rw [hfound] at hbounding
      exact .inr ⟨a, b, t0, t1, ha, hb, hbounding.1, hbounding.2, rfl⟩
  · next hmissing =>
    refine .inl ⟨?_, rfl⟩
    ext t
    simp only [shown, Set.mem_ofPred_eq, Set.mem_empty_iff_false, iff_false]
    rintro ⟨-, a, ha, b, hb, -⟩
    exact hmissing a b ha hb

/-- What the scan holds after the points so far, up to the latest: a stretch of visible parameters
for each closed run, and one that lasts for the open run if the line is visible at the latest
point. -/
inductive Scanned (place : β → Option (K × K)) (low high : K × K) (points : List β)
    (before : List β) (p : β) (s : RunScan β) : Prop
  | idle {stretches : List (K × K)} :
      List.Forall₂ (Follows place points) stretches s.closed →
      Divides place low high points (visibleBefore place low high points before.length) stretches →
      (before.length : K) ∉ visibleBefore place low high points before.length →
      s.current = [] → Scanned place low high points before p s
  | drawing {stretches : List (K × K)} {start : K} {outside inner : List β} {first : β} :
      List.Forall₂ (Follows place points) stretches s.closed →
      Divides place low high points (visibleBefore place low high points before.length)
        (stretches ++ [(start, (before.length : K))]) →
      before = outside ++ inner → s.current.reverse = first :: (inner ++ [p]) →
      Begins place points start outside first →
      (∃ x ∈ place p, IsAt place points (before.length : K) x) →
      Scanned place low high points before p s

/-- What the scan holds while a segment is drawn that is visible up to a parameter. The open run has
not been led there yet. -/
def Drawing (place : β → Option (K × K)) (low high : K × K) (points read : List β) (stop : K)
    (s : RunScan β) : Prop :=
  ∃ (stretches : List (K × K)) (start : K) (outside inner : List β) (first : β),
    List.Forall₂ (Follows place points) stretches s.closed ∧
    Divides place low high points (visibleBefore place low high points read.length)
      (stretches ++ [(start, stop)]) ∧
    read = outside ++ inner ∧ s.current.reverse = first :: inner ∧
    Begins place points start outside first

section
variable {before rest : List β} {p : β} {s : RunScan β}

/-- Closing a run leaves a stretch for each run. -/
theorem Scanned.close (h : Scanned place low high points before p s)
    (hpoints : points = before ++ p :: rest) :
    ∃ stretches, List.Forall₂ (Follows place points) stretches s.close.closed ∧
      Divides place low high points (visibleBefore place low high points before.length)
        stretches := by
  cases h with
  | @idle stretches hfollows hdivides _ hcurrent =>
    rw [RunScan.close_of_empty hcurrent]
    exact ⟨stretches, hfollows, hdivides⟩
  | @drawing stretches start outside inner first hfollows hdivides hbefore hcurrent hbegins hend =>
    have hrun : Follows place points (start, (before.length : K)) s.current.reverse := by
      refine ⟨outside, inner, p :: rest, first, p, ?_, hcurrent, hbegins, ?_⟩
      · rw [hpoints, hbefore]
      · rw [← hbefore]
        exact ⟨hend, by linarith, le_rfl, fun _ => by rw [hpoints]; simp⟩
    rw [RunScan.close_of_two_le (by simpa using hrun.two_le_length)]
    exact ⟨_, List.rel_append hfollows (.cons hrun .nil), hdivides⟩

variable {q : β} {a b : K × K} {t0 t1 : K}

/-- A new run begins at the first visible place of a segment. -/
theorem exists_begins (places : ∀ x, place (value x) = some x)
    (hpoints : points = before ++ p :: q :: rest) (ha : place p = some a) (hb : place q = some b)
    (ht : t0 ∈ Set.Icc 0 1) (hcurrent : s.current = []) :
    ∃ first, s.opened p (fun t => value (along a b t)) t0 = ⟨s.closed, [first]⟩ ∧
      Begins place points (before.length + t0) (before ++ [p]) first := by
  have hp : points[before.length]? = some p := by simp [hpoints]
  have hq : points[before.length + 1]? = some q := by simp [hpoints]
  have hat := isAt_segment hp hq ha hb ht
  have hlength : ((before ++ [p]).length : K) = before.length + 1 := by simp
  rcases ht.1.lt_or_eq with hpos | rfl
  · refine ⟨value (along a b t0), ?_, ⟨_, places _, hat⟩, ?_, ?_, fun heq => ?_⟩
    · simp [RunScan.opened, hpos, RunScan.close_of_empty hcurrent, RunScan.push]
    · linarith
    · linarith [ht.2]
    · linarith
  · refine ⟨p, ?_, ⟨a, ha, along_zero a b ▸ hat⟩, ?_, ?_, fun _ => by simp⟩
    · simp [RunScan.opened, RunScan.close_of_empty hcurrent, RunScan.push, hcurrent]
    · linarith
    · linarith

/-- Where a segment is visible, a run is open: the one that was led there, or else a new one. -/
theorem Scanned.opened (places : ∀ x, place (value x) = some x)
    (h : Scanned place low high points before p s) (hpoints : points = before ++ p :: q :: rest)
    (ha : place p = some a) (hb : place q = some b) (ht : t0 ≤ t1)
    (hshown : shown place low high p q = Set.Icc t0 t1) :
    Drawing place low high points (before ++ [p]) (before.length + t1)
      (s.opened p (fun t => value (along a b t)) t0) := by
  have hp : points[before.length]? = some p := by simp [hpoints]
  have hq : points[before.length + 1]? = some q := by simp [hpoints]
  have hlength : (before ++ [p]).length = before.length + 1 := by simp
  have hfirst : t0 ∈ shown place low high p q := hshown ▸ Set.left_mem_Icc.mpr ht
  rw [Drawing, hlength, visibleBefore_succ_Icc hp hq hshown]
  cases h with
  | @idle stretches hfollows hdivides hhidden hcurrent =>
    obtain ⟨first, hopened, hbegins⟩ := exists_begins places hpoints ha hb hfirst.1 hcurrent
    have hgap := exists_gap hp hq hhidden ht hshown
    rw [hopened]
    exact ⟨stretches, before.length + t0, before ++ [p], [], first, hfollows,
      hdivides.concat (by linarith) hgap, by simp, rfl, hbegins⟩
  | @drawing stretches start outside inner first hfollows hdivides hbefore hcurrent hbegins hend =>
    have hvisible : (before.length : K) ∈ visibleBefore place low high points before.length := by
      have hmem : (start, (before.length : K)) ∈ stretches ++ [(start, (before.length : K))] := by
        simp
      exact hdivides.mem_of_mem_stretch hmem (Set.right_mem_Icc.mpr (hdivides.ordered _ hmem))
    have hzero : (0 : K) ∈ shown place low high p q :=
      ⟨by simp, a, ha, b, hb, (along_zero a b).symm ▸ place_mem_box hp ha hvisible⟩
    obtain rfl : t0 = 0 := le_antisymm (hshown ▸ hzero : (0 : K) ∈ Set.Icc t0 t1).1 hfirst.1.1
    have hopen : s.current ≠ [] := by
      intro hnil
      simp [hnil] at hcurrent
    have hsame : s.opened p (fun t => value (along a b t)) 0 = s := by
      simp [RunScan.opened, hopen]
    rw [hsame, add_zero]
    refine ⟨stretches, start, outside, inner ++ [p], first, hfollows, ?_, ?_, hcurrent, hbegins⟩
    · exact hdivides.extend (by linarith)
    · rw [hbefore, List.append_assoc]

/-- The run is led to the last visible place, and goes on if that is the next point. -/
theorem Drawing.ended (places : ∀ x, place (value x) = some x)
    (h : Drawing place low high points (before ++ [p]) (before.length + t1) s)
    (hpoints : points = before ++ p :: q :: rest) (ha : place p = some a) (hb : place q = some b)
    (ht : t0 ≤ t1) (hshown : shown place low high p q = Set.Icc t0 t1) :
    Scanned place low high points (before ++ [p]) q
      (s.ended q (fun t => value (along a b t)) t1) := by
  have hp : points[before.length]? = some p := by simp [hpoints]
  have hq : points[before.length + 1]? = some q := by simp [hpoints]
  have hlength : (before ++ [p]).length = before.length + 1 := by simp
  have hcast : ((before ++ [p]).length : K) = before.length + 1 := by simp
  have hlast : t1 ∈ shown place low high p q := hshown ▸ Set.right_mem_Icc.mpr ht
  have hat := isAt_segment hp hq ha hb hlast.1
  obtain ⟨stretches, start, outside, inner, first, hfollows, hdivides, hread, hcurrent,
    hbegins⟩ := h
  unfold RunScan.ended
  split
  · next hshort =>
    have hrun : Follows place points (start, before.length + t1)
        (s.push (value (along a b t1))).current.reverse := by
      refine ⟨outside, inner, q :: rest, first, value (along a b t1), ?_, ?_, hbegins, ?_⟩
      · rw [hpoints, ← hread, List.append_assoc, List.singleton_append]
      · simp [RunScan.push, hcurrent]
      · rw [← hread]
        exact ⟨⟨_, places _, hat⟩, by linarith [hlast.1.1], by linarith, fun heq => by linarith⟩
    refine .idle ?_ hdivides ?_ (s.push _).close_current
    · rw [RunScan.close_of_two_le (by simpa using hrun.two_le_length)]
      exact List.rel_append hfollows (.cons hrun .nil)
    · rw [hlength, visibleBefore_succ_Icc hp hq hshown]
      push_cast
      rintro (hbefore | hsegment)
      · linarith [visibleBefore_le hbefore]
      · linarith [hsegment.2]
  · next hwhole =>
    obtain rfl : t1 = 1 := le_antisymm hlast.1.2 (not_lt.mp hwhole)
    rw [along_one] at hat
    rw [← hcast] at hdivides hat
    exact .drawing hfollows hdivides hread (by simp [RunScan.push, hcurrent]) hbegins ⟨b, hb, hat⟩

/-- One segment keeps the scan in step with the stretches. -/
theorem Scanned.step (places : ∀ x, place (value x) = some x)
    (h : Scanned place low high points before p s) (hpoints : points = before ++ p :: q :: rest) :
    Scanned place low high points (before ++ [p]) q
      (clipStep place value low high s (p, q)) := by
  rcases clipStep_cases place low high value s p q with
    ⟨hempty, hstep⟩ | ⟨a, b, t0, t1, ha, hb, ht, hshown, hstep⟩
  · have hlength : (before ++ [p]).length = before.length + 1 := by simp
    have hsame : visibleBefore place low high points (before.length + 1) =
        visibleBefore place low high points before.length := by
      rw [visibleBefore_succ (p := p) (q := q) (by simp [hpoints]) (by simp [hpoints]), hempty]
      simp
    obtain ⟨stretches, hfollows, hdivides⟩ := h.close hpoints
    rw [hstep]
    refine .idle hfollows ?_ ?_ s.close_current
    · rwa [hlength, hsame]
    · rw [hlength, hsame]
      intro hmem
      have hle := visibleBefore_le hmem
      push_cast at hle
      linarith
  · rw [hstep]
    exact (h.opened places hpoints ha hb ht hshown).ended places hpoints ha hb ht hshown

/-- The scan of the whole line, from any point on. -/
theorem Scanned.run (places : ∀ x, place (value x) = some x)
    (h : Scanned place low high points before p s) (hpoints : points = before ++ p :: rest) :
    ∃ read last, points = read ++ [last] ∧ Scanned place low high points read last
      (((p :: rest).zip rest).foldl (clipStep place value low high) s) := by
  induction rest generalizing before p s with
  | nil => exact ⟨before, p, hpoints, h⟩
  | cons q rest ih =>
    exact ih (h.step places hpoints) (by rw [hpoints, List.append_assoc, List.singleton_append])

end

variable (low high) in
/-- The runs of a line follow its visible stretches, one after the other. -/
theorem clipRuns_follow (places : ∀ x, place (value x) = some x) (points : List β) :
    ∃ stretches, List.Forall₂ (Follows place points) stretches
        (clipRuns place value low high points) ∧
      Divides place low high points (visible place low high points) stretches := by
  cases points with
  | nil =>
    have hnone : visible place low high [] = ∅ :=
      (visibleBefore_length (Nat.zero_le _)).symm.trans visibleBefore_zero
    exact ⟨[], .nil, hnone ▸ Divides.nil⟩
  | cons p rest =>
    have hstart : Scanned place low high (p :: rest) [] p RunScan.start := by
      have hnone : visibleBefore place low high (p :: rest) ([] : List β).length = ∅ :=
        visibleBefore_zero
      exact .idle .nil (hnone ▸ .nil) (hnone ▸ Set.notMem_empty _) rfl
    obtain ⟨read, last, hpoints, hscanned⟩ := hstart.run places rfl
    obtain ⟨stretches, hfollows, hdivides⟩ := hscanned.close hpoints
    rw [visibleBefore_length (by simp [hpoints])] at hdivides
    exact ⟨stretches, hfollows, hdivides⟩

end

end BenchCharts.Geometry

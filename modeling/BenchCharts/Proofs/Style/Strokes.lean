import BenchCharts.Style.Hatch
import Mathlib.Algebra.Ring.Nat

/-!
What a hatch pattern asks for. Counting stroke after stroke leaves the strokes that occur, in the
order of drawing, each with the number of times that it occurs. So only the characters of a pattern
that stand for strokes matter, and not where they stand.
-/
namespace BenchCharts.Style

namespace Stroke

theorem ascending_all : all.Pairwise (· < ·) := by decide

theorem mem_all (s : Stroke) : s ∈ all := by cases s <;> decide

theorem not_lt_self (s : Stroke) : ¬ s < s := Nat.lt_irrefl _

theorem not_lt_of_lt {a b : Stroke} (h : a < b) : ¬ b < a := Nat.lt_asymm h

/-! ## One more stroke -/

theorem countInto_cons_self (s : Stroke) (n : Nat) (rest : List (Stroke × Nat)) :
    s.countInto ((s, n) :: rest) = (s, n + 1) :: rest := by
  rw [countInto, if_neg s.not_lt_self, if_pos rfl]

theorem countInto_cons_of_lt {s first : Stroke} (h : first < s) (n : Nat)
    (rest : List (Stroke × Nat)) :
    s.countInto ((first, n) :: rest) = (first, n) :: s.countInto rest := by
  have hne : s ≠ first := by
    rintro rfl
    exact s.not_lt_self h
  rw [countInto, if_neg (not_lt_of_lt h), if_neg hne]

/-- A stroke before all that were counted is new. -/
theorem countInto_of_lt {s : Stroke} {counts : List (Stroke × Nat)}
    (h : ∀ entry ∈ counts, s < entry.1) : s.countInto counts = (s, 1) :: counts := by
  cases counts with
  | nil => rfl
  | cons first rest => exact if_pos (h first List.mem_cons_self)

theorem sum_countInto (s : Stroke) (counts : List (Stroke × Nat)) :
    ((s.countInto counts).map (·.2)).sum = (counts.map (·.2)).sum + 1 := by
  induction counts with
  | nil => rfl
  | cons first rest ih =>
    unfold countInto
    split
    · simp only [List.map_cons, List.sum_cons]
      omega
    · split
      · simp only [List.map_cons, List.sum_cons]
        omega
      · simp only [List.map_cons, List.sum_cons, ih]
        omega

/-! ## Strokes with numbers -/

/-- The strokes of a list that occur, each with its number. -/
def listed (strokes : List Stroke) (number : Stroke → Nat) : List (Stroke × Nat) :=
  (strokes.map fun s => (s, number s)).filter fun entry => 0 < entry.2

variable {strokes : List Stroke} {number : Stroke → Nat}

theorem listed_cons (s : Stroke) (strokes : List Stroke) (number : Stroke → Nat) :
    listed (s :: strokes) number =
      if 0 < number s then (s, number s) :: listed strokes number else listed strokes number := by
  simp [listed, List.filter_cons]

theorem mem_listed {entry : Stroke × Nat} : entry ∈ listed strokes number ↔
    entry.1 ∈ strokes ∧ number entry.1 = entry.2 ∧ 0 < entry.2 := by
  obtain ⟨s, n⟩ := entry
  simp only [listed, List.mem_filter, List.mem_map, Prod.mk.injEq, decide_eq_true_eq]
  constructor
  · rintro ⟨⟨s, hs, rfl, rfl⟩, hn⟩
    exact ⟨hs, rfl, hn⟩
  · rintro ⟨hs, rfl, hn⟩
    exact ⟨⟨s, hs, rfl, rfl⟩, hn⟩

theorem listed_congr {other : Stroke → Nat} (h : ∀ s ∈ strokes, number s = other s) :
    listed strokes number = listed strokes other := by
  unfold listed
  rw [List.map_congr_left fun s hs => by rw [h s hs]]

theorem ascending_listed (ascending : strokes.Pairwise (· < ·)) (number : Stroke → Nat) :
    (listed strokes number).Pairwise fun a b => a.1 < b.1 := by
  refine List.Pairwise.filter _ ?_
  rw [List.pairwise_map]
  exact ascending

theorem lookup_listed (s : Stroke) (strokes : List Stroke) (number : Stroke → Nat) :
    ((listed strokes number).lookup s).getD 0 = if s ∈ strokes then number s else 0 := by
  induction strokes with
  | nil => rfl
  | cons first rest ih =>
    rw [listed_cons]
    by_cases heq : s = first
    · subst heq
      rw [if_pos List.mem_cons_self]
      split
      · rw [List.lookup_cons_self, Option.getD_some]
      · next hzero => rw [ih, Nat.eq_zero_of_not_pos hzero, ite_self]
    · have hmem : s ∈ first :: rest ↔ s ∈ rest := by simp [heq]
      simp only [hmem]
      split
      · rw [List.lookup_cons, beq_false_of_ne heq, ih]
      · exact ih

/-- Counting a stroke once more raises its number and no other. -/
theorem countInto_listed (ascending : strokes.Pairwise (· < ·)) {stroke : Stroke}
    (hmem : stroke ∈ strokes) (number : Stroke → Nat) :
    stroke.countInto (listed strokes number) =
      listed strokes fun s => number s + if stroke = s then 1 else 0 := by
  induction strokes with
  | nil => contradiction
  | cons first rest ih =>
    obtain ⟨hfirst, hrest⟩ := List.pairwise_cons.mp ascending
    simp only [listed_cons]
    by_cases heq : stroke = first
    · subst heq
      -- The strokes behind come later, so their numbers stay.
      have hsame : listed rest (fun s => number s + if stroke = s then 1 else 0) =
          listed rest number := by
        refine listed_congr fun s hs => ?_
        have hne : stroke ≠ s := by
          rintro rfl
          exact stroke.not_lt_self (hfirst stroke hs)
        rw [if_neg hne, Nat.add_zero]
      rw [hsame, if_pos rfl, if_pos (Nat.succ_pos _)]
      by_cases hcounted : 0 < number stroke
      · rw [if_pos hcounted, countInto_cons_self]
      · rw [if_neg hcounted, Nat.eq_zero_of_not_pos hcounted]
        exact countInto_of_lt fun entry hentry => hfirst _ (mem_listed.mp hentry).1
    · have hlater : stroke ∈ rest := (List.mem_cons.mp hmem).resolve_left heq
      rw [if_neg heq, Nat.add_zero, ← ih hrest hlater]
      split
      · rw [countInto_cons_of_lt (hfirst stroke hlater)]
      · rfl

/-- Counting one stroke after the other adds up how often each is asked for. -/
theorem foldl_countInto_listed (asked : List Stroke) (number : Stroke → Nat) :
    asked.foldl (fun counts stroke => stroke.countInto counts) (listed all number) =
      listed all fun s => number s + asked.count s := by
  induction asked generalizing number with
  | nil => rfl
  | cons stroke rest ih =>
    rw [List.foldl_cons, countInto_listed ascending_all (mem_all stroke), ih]
    refine listed_congr fun s _ => ?_
    rw [List.count_cons, Nat.add_assoc, Nat.add_comm (List.count s rest)]
    simp only [beq_iff_eq]

theorem sum_foldl_countInto (asked : List Stroke) (counts : List (Stroke × Nat)) :
    ((asked.foldl (fun counts stroke => stroke.countInto counts) counts).map (·.2)).sum =
      (counts.map (·.2)).sum + asked.length := by
  induction asked generalizing counts with
  | nil => rfl
  | cons stroke rest ih =>
    rw [List.foldl_cons, ih, sum_countInto, List.length_cons]
    omega

end Stroke

namespace Hatch

/-! ## The characters of a pattern -/

/-- Characters that stand for one stroke. -/
def single : List Char := ['/', '\\', '|', '-', '.', 'o', 'O', '*']

/-- Characters that stand for two strokes across each other. -/
def crossing : List Char := ['x', 'X', '+']

def IsMark (c : Char) : Prop := c ∈ single ∨ c ∈ crossing

instance (c : Char) : Decidable (IsMark c) := inferInstanceAs (Decidable (_ ∨ _))

theorem length_strokesOf (c : Char) :
    (strokesOf c).length = (if c ∈ single then 1 else 0) + 2 * if c ∈ crossing then 1 else 0 := by
  unfold strokesOf
  grind [single, crossing]

theorem nodup_strokesOf (c : Char) : (strokesOf c).Nodup := by
  unfold strokesOf
  grind

theorem strokesOf_eq_nil {c : Char} (h : ¬ IsMark c) : strokesOf c = [] := by
  obtain ⟨hsingle, hcrossing⟩ := not_or.mp h
  rw [← List.length_eq_zero_iff, length_strokesOf, if_neg hsingle, if_neg hcrossing]

theorem length_flatMap_strokesOf (cs : List Char) :
    (cs.flatMap strokesOf).length = cs.countP (· ∈ single) + 2 * cs.countP (· ∈ crossing) := by
  induction cs with
  | nil => rfl
  | cons c rest ih =>
    simp only [List.flatMap_cons, List.length_append, length_strokesOf, ih, List.countP_cons,
      decide_eq_true_eq]
    omega

/-- Each character asks at most once for a stroke. -/
theorem count_flatMap_strokesOf (cs : List Char) (s : Stroke) :
    (cs.flatMap strokesOf).count s = cs.countP (s ∈ strokesOf ·) := by
  induction cs with
  | nil => rfl
  | cons c rest ih =>
    simp only [List.flatMap_cons, List.count_append, ih, List.countP_cons, decide_eq_true_eq,
      (nodup_strokesOf c).count]
    omega

theorem flatMap_strokesOf_filter (cs : List Char) :
    (cs.filter (IsMark ·)).flatMap strokesOf = cs.flatMap strokesOf := by
  induction cs with
  | nil => rfl
  | cons c rest ih =>
    rw [List.filter_cons]
    by_cases hmark : IsMark c
    · rw [if_pos (decide_eq_true hmark), List.flatMap_cons, List.flatMap_cons, ih]
    · rw [if_neg (by simpa using hmark), List.flatMap_cons, strokesOf_eq_nil hmark, ih,
        List.nil_append]

/-! ## The strokes of a pattern -/

/-- How often a stroke is asked for. -/
def density (h : Hatch) (stroke : Stroke) : Nat := (h.text.toList.flatMap strokesOf).count stroke

theorem density_append (a b : String) (stroke : Stroke) :
    (Hatch.mk (a ++ b)).density stroke =
      (Hatch.mk a).density stroke + (Hatch.mk b).density stroke := by
  simp [density]

theorem strokes_eq_listed (h : Hatch) : h.strokes = Stroke.listed Stroke.all h.density := by
  have hnone : Stroke.listed Stroke.all (fun _ => 0) = [] := rfl
  rw [strokes, ← hnone, Stroke.foldl_countInto_listed]
  simp only [Nat.zero_add]
  rfl

/-- The count that is listed for a stroke, none for a stroke that is not listed. -/
def countOf (h : Hatch) (s : Stroke) : Nat := (h.strokes.lookup s).getD 0

theorem countOf_eq_density (h : Hatch) (s : Stroke) : h.countOf s = h.density s := by
  rw [countOf, strokes_eq_listed, Stroke.lookup_listed, if_pos s.mem_all]

theorem sum_strokes (h : Hatch) :
    (h.strokes.map (·.2)).sum = (h.text.toList.flatMap strokesOf).length := by
  rw [strokes, Stroke.sum_foldl_countInto]
  exact Nat.zero_add _

/-- What the strokes of a pattern tell of its characters. -/
structure Tallies (h : Hatch) : Prop where
  ascending : h.strokes.Pairwise fun a b => a.1 < b.1
  positive : ∀ entry ∈ h.strokes, 0 < entry.2
  /-- A stroke is counted once for each character that stands for it. -/
  countOf_eq : ∀ s, h.countOf s = h.text.toList.countP (s ∈ strokesOf ·)
  countOf_append : ∀ (other : Hatch) s,
    (Hatch.mk (h.text ++ other.text)).countOf s = h.countOf s + other.countOf s
  of_perm : ∀ other : Hatch, other.text.toList.Perm h.text.toList → other.strokes = h.strokes
  /-- Characters that stand for nothing may be inserted anywhere. -/
  of_marks : ∀ other : Hatch,
    other.text.toList.filter (IsMark ·) = h.text.toList.filter (IsMark ·) →
      other.strokes = h.strokes
  sum_eq : (h.strokes.map (·.2)).sum =
    h.text.toList.countP (· ∈ single) + 2 * h.text.toList.countP (· ∈ crossing)
  /-- No count outgrows the pattern. -/
  le_length : ∀ entry ∈ h.strokes, entry.2 ≤ h.text.length

/-- The strokes of a pattern count its characters, stroke by stroke. -/
theorem strokes_tally (h : Hatch) : Tallies h where
  ascending := by
    rw [strokes_eq_listed]
    exact Stroke.ascending_listed Stroke.ascending_all _
  positive entry hentry := by
    rw [strokes_eq_listed] at hentry
    exact (Stroke.mem_listed.mp hentry).2.2
  countOf_eq s := by rw [countOf_eq_density, density, count_flatMap_strokesOf]
  countOf_append other s := by simp only [countOf_eq_density, density_append]
  of_perm other hperm := by
    have hdensity (s : Stroke) : other.density s = h.density s :=
      (hperm.flatMap_right strokesOf).count_eq s
    rw [strokes_eq_listed, strokes_eq_listed, Stroke.listed_congr fun s _ => hdensity s]
  of_marks other hmarks := by
    rw [strokes, ← flatMap_strokesOf_filter, hmarks, flatMap_strokesOf_filter, strokes]
  sum_eq := by rw [sum_strokes, length_flatMap_strokesOf]
  le_length entry hentry := by
    rw [strokes_eq_listed] at hentry
    obtain ⟨-, hnumber, -⟩ := Stroke.mem_listed.mp hentry
    rw [← hnumber, density, count_flatMap_strokesOf, ← String.length_toList]
    exact List.countP_le_length

/-- A slash between two crossings, in another order and with a character that means nothing. -/
theorem strokes_tally_rearranged :
    (Hatch.mk "x/+").strokes = [(.forward, 2), (.back, 1), (.vertical, 1), (.horizontal, 1)] ∧
      (Hatch.mk "+x/").strokes = (Hatch.mk "x/+").strokes ∧
      (Hatch.mk "x?/+").strokes = (Hatch.mk "x/+").strokes := by
  have htallies := strokes_tally ⟨"x/+"⟩
  exact ⟨by decide, htallies.of_perm ⟨"+x/"⟩ (by decide), htallies.of_marks ⟨"x?/+"⟩ (by decide)⟩

end Hatch

end BenchCharts.Style

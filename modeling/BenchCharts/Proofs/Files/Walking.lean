import BenchCharts.Files.Tree
import BenchCharts.Proofs.Files.Joining
import Mathlib.Data.List.Induction

/-!
Walks along the steps of a path. Where a step leads does not depend on the tree, which only says
whether the step can be taken: it starts from a directory. So a walk succeeds in every tree that has
the same directories, and a walk without steps upwards can be taken in every tree in which it ends
at a directory.
-/
namespace BenchCharts.Files

/-- Where a step leads; names that are too long lead nowhere. -/
def next? (place : Location) (name : String) : Option Location :=
  if name = "." then some place
  else if name = ".." then
    some (if place = ["/"] then place
      else if place = [] ∨ place.getLast? = some ".." then place ++ [".."] else place.dropLast)
  else if Tree.nameLimit < name.utf8ByteSize then none
  else some (place ++ [name])

theorem next?_plain {place q : Location} {name : String} (hname : PlainName name)
    (h : next? place name = some q) : q = place ++ [name] := by
  obtain ⟨-, -, hdot, hdots⟩ := hname
  unfold next? at h
  rw [if_neg hdot, if_neg hdots] at h
  split at h
  · contradiction
  · exact (Option.some.inj h).symm

/-- Where steps lead, whether or not they can be taken. -/
def lead? (place : Location) : List String → Option Location
  | [] => some place
  | name :: rest => (next? place name).bind fun q => lead? q rest

theorem lead?_append_eq_some_iff (place q : Location) (before after : List String) :
    lead? place (before ++ after) = some q ↔
      ∃ m, lead? place before = some m ∧ lead? m after = some q := by
  induction before generalizing place with
  | nil => simp [lead?]
  | cons name rest ih =>
    rw [List.cons_append, lead?, lead?]
    cases next? place name with
    | none => simp
    | some m =>
      rw [Option.bind_some, Option.bind_some]
      exact ih m

theorem lead?_plain {place q : Location} {names : List String}
    (hnames : ∀ name ∈ names, PlainName name) (h : lead? place names = some q) :
    q = place ++ names := by
  induction names generalizing place with
  | nil => simpa [lead?, eq_comm] using h
  | cons name rest ih =>
    rw [List.forall_mem_cons] at hnames
    obtain ⟨m, hm, hrest⟩ := Option.bind_eq_some_iff.mp h
    rw [ih hnames.2 hrest, next?_plain hnames.1 hm, List.append_assoc, List.singleton_append]

namespace Tree

variable {t u : Tree} {p q : Location} {name : String} {names : List String}

theorem at?_of_isGiven (t : Tree) (h : IsGiven p) : t.at? p = some .directory := by
  unfold at? entryAt
  rw [if_pos h]

theorem mem_keys_of_at? {e : Entry} (h : t.at? p = some e) (hgiven : ¬ IsGiven p) :
    p ∈ t.entries.map (·.1) := by
  unfold at? entryAt at h
  rw [if_neg hgiven] at h
  obtain ⟨l₁, l₂, hsplit, -⟩ := List.lookup_eq_some_iff.mp h
  rw [hsplit]
  simp

/-- What is there is in a directory. -/
theorem at?_of_below (hname : name ≠ "..") {e : Entry} (h : t.at? (p ++ [name]) = some e) :
    t.at? p = some .directory := by
  by_cases hgiven : IsGiven (p ++ [name])
  · rcases hgiven with hnil | hroot | hup
    · simp at hnil
    · cases p with
      | nil => exact t.at?_of_isGiven (Or.inl rfl)
      | cons a rest => simp at hroot
    · rw [List.getLast?_append] at hup
      exact absurd (Option.some.inj hup) hname
  · have hparent := t.rooted.parent _ (mem_keys_of_at? h hgiven)
    rwa [List.dropLast_concat] at hparent

theorem walk_cons_eq_ok_iff (t : Tree) (p q : Location) (name : String) (rest : List String) :
    t.walk p (name :: rest) = .ok q ↔
      t.at? p = some .directory ∧ ∃ m, next? p name = some m ∧ t.walk m rest = .ok q := by
  rw [walk]
  unfold next?
  split
  · next h => simp [h]
  · next content h => simp [h]
  · next h =>
    by_cases hdot : name = "."
    · simp [h, hdot]
    · by_cases hdots : name = ".."
      · simp [h, hdots]
      · by_cases hlong : nameLimit < name.utf8ByteSize
        · simp [h, hdot, hdots, hlong]
        · simp [h, hdot, hdots, hlong]

theorem walk_append_eq_ok_iff (t : Tree) (p q : Location) (before after : List String) :
    t.walk p (before ++ after) = .ok q ↔
      ∃ m, t.walk p before = .ok m ∧ t.walk m after = .ok q := by
  induction before generalizing p with
  | nil => simp [walk]
  | cons name rest ih =>
    rw [List.cons_append, walk_cons_eq_ok_iff]
    simp only [walk_cons_eq_ok_iff, ih]
    constructor
    · rintro ⟨hdir, m, hm, n, hn, hq⟩
      exact ⟨n, ⟨hdir, m, hm, hn⟩, hq⟩
    · rintro ⟨n, ⟨hdir, m, hm, hn⟩, hq⟩
      exact ⟨hdir, m, hm, n, hn, hq⟩

theorem walk_concat_eq_ok_iff (t : Tree) (p q : Location) (names : List String) (name : String) :
    t.walk p (names ++ [name]) = .ok q ↔
      ∃ m, t.walk p names = .ok m ∧ t.at? m = some .directory ∧ next? m name = some q := by
  rw [walk_append_eq_ok_iff]
  apply exists_congr
  intro m
  rw [walk_cons_eq_ok_iff]
  simp [walk]

/-- A walk ends where its steps lead in every tree in which it can be taken. -/
theorem lead?_of_walk (h : t.walk p names = .ok q) : lead? p names = some q := by
  induction names generalizing p with
  | nil => exact congrArg some (Except.ok.inj h)
  | cons name rest ih =>
    obtain ⟨-, m, hm, hrest⟩ := (walk_cons_eq_ok_iff t p q name rest).mp h
    exact Option.bind_eq_some_iff.mpr ⟨m, hm, ih hrest⟩

/-- All directories of one tree are directories of the other. -/
def Keeps (t u : Tree) : Prop := ∀ p, t.at? p = some .directory → u.at? p = some .directory

theorem Keeps.walk (h : Keeps t u) (hwalk : t.walk p names = .ok q) :
    u.walk p names = .ok q := by
  induction names generalizing p with
  | nil => exact hwalk
  | cons name rest ih =>
    rw [walk_cons_eq_ok_iff] at hwalk ⊢
    obtain ⟨hdir, m, hm, hrest⟩ := hwalk
    exact ⟨h p hdir, m, hm, ih hrest⟩

/-- A step from a directory leads to another one, or to something right below. -/
theorem next?_cases (hdir : t.at? p = some .directory) (h : next? p name = some q) :
    t.at? q = some .directory ∨ (q = p ++ [name] ∧ name ≠ "..") := by
  unfold next? at h
  by_cases hdot : name = "."
  · rw [if_pos hdot] at h
    rw [← Option.some.inj h]
    exact Or.inl hdir
  · rw [if_neg hdot] at h
    by_cases hdots : name = ".."
    · rw [if_pos hdots] at h
      left
      rw [← Option.some.inj h]
      split
      · exact hdir
      · split
        · exact t.at?_of_isGiven (Or.inr (Or.inr (by simp)))
        · next hroot hlast =>
          have hne : p ≠ [] := fun hnil => hlast (Or.inl hnil)
          have hup : p.getLast hne ≠ ".." := by
            intro hup
            apply hlast
            right
            rw [List.getLast?_eq_some_getLast hne, hup]
          rw [← List.dropLast_concat_getLast hne] at hdir
          exact at?_of_below hup hdir
    · rw [if_neg hdots] at h
      split at h
      · contradiction
      · exact Or.inr ⟨(Option.some.inj h).symm, hdots⟩

/-- Where a walk ends an entry can be put, unless a directory is there. -/
theorem accepts_of_walk (hwalk : t.walk p names = .ok q) (hnames : names ≠ [])
    (hfree : t.at? q ≠ some .directory) : t.Accepts q := by
  rw [← List.dropLast_concat_getLast hnames, walk_concat_eq_ok_iff] at hwalk
  obtain ⟨m, -, hdir, hnext⟩ := hwalk
  rcases next?_cases hdir hnext with hq | ⟨rfl, -⟩
  · contradiction
  · refine ⟨?_, hfree⟩
    rwa [List.dropLast_concat]

/-- A walk that goes nowhere upwards needs no other directories than those above its end. -/
theorem walk_back (hdown : ".." ∉ names) (hwalk : u.walk p names = .ok q)
    (hend : t.at? q = some .directory) : t.walk p names = .ok q := by
  induction names using List.reverseRecOn generalizing q with
  | nil => exact hwalk
  | append_singleton names name ih =>
    rw [List.mem_append, List.mem_singleton, not_or] at hdown
    rw [walk_concat_eq_ok_iff] at hwalk ⊢
    obtain ⟨m, hm, -, hnext⟩ := hwalk
    have hdir : t.at? m = some .directory := by
      unfold next? at hnext
      split at hnext
      · rwa [Option.some.inj hnext]
      · split at hnext
        · next hdots => exact absurd hdots.symm hdown.2
        · split at hnext
          · contradiction
          · rw [← Option.some.inj hnext] at hend
            exact at?_of_below (Ne.symm hdown.2) hend
    exact ⟨m, ih hdown.1 hm hdir, hdir, hnext⟩

end Tree

end BenchCharts.Files

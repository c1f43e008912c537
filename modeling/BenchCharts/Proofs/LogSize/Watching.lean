import BenchCharts.LogSize.Drawing
import BenchCharts.Proofs.SortedMap
import Mathlib.Data.List.Forall2
import Mathlib.Data.List.Induction

/-!
What a watched directory leaves in a record. A run is a sequence of ticks, and the record of every
run is known from its ticks alone: which names they listed, and for each name the ticks at which it
had a size. So the two columns of a series stay in step, and a later tick only appends to them.
-/
namespace BenchCharts.LogSize

/-- A point in time, and what was listed then. -/
abbrev Tick := Nat × Option Listing

namespace Tick

def listing (tick : Tick) : Listing := tick.2.getD []

def names (tick : Tick) : List String := tick.listing.map (·.1)

/-- The same entries at the same time, in any order. -/
def Reordered (a b : Tick) : Prop :=
  a.1 = b.1 ∧ a.2.isSome = b.2.isSome ∧ a.listing.Perm b.listing

/-- What an entry says about a name: the size that it is listed with, if that is known and not
zero. -/
def sighting? (name : String) (elapsed : Nat) (entry : String × Option Nat) : Option (Nat × Nat) :=
  if entry.1 = name then (entry.2.filter (0 < ·)).map (elapsed, ·) else none

theorem sighting?_eq_some_iff (name : String) (elapsed : Nat) (entry : String × Option Nat)
    (time size : Nat) :
    sighting? name elapsed entry = some (time, size) ↔
      time = elapsed ∧ entry = (name, some size) ∧ 0 < size := by
  obtain ⟨listed, seen⟩ := entry
  by_cases hname : listed = name
  · simp only [sighting?, hname, if_true, Option.map_eq_some_iff, Option.filter_eq_some_iff,
      decide_eq_true_eq, Prod.mk.injEq, true_and]
    constructor
    · rintro ⟨seen, ⟨rfl, hpos⟩, rfl, rfl⟩
      exact ⟨rfl, rfl, hpos⟩
    · rintro ⟨rfl, rfl, hpos⟩
      exact ⟨size, ⟨rfl, hpos⟩, rfl, rfl⟩
  · simp [sighting?, hname]

theorem sighting?_of_ne {name : String} {entry : String × Option Nat} (h : entry.1 ≠ name)
    (elapsed : Nat) : sighting? name elapsed entry = none := if_neg h

/-- Entries with other names say nothing about a name. -/
theorem findSome?_sighting?_of_not_mem {name : String} {listing : Listing}
    (h : name ∉ listing.map (·.1)) (elapsed : Nat) :
    listing.findSome? (sighting? name elapsed) = none := by
  rw [List.findSome?_eq_none_iff]
  intro entry hentry
  apply sighting?_of_ne
  rintro rfl
  exact h (List.mem_map_of_mem hentry)

/-- What a tick says about a name. -/
def observation? (name : String) (tick : Tick) : Option (Nat × Nat) :=
  tick.listing.findSome? (sighting? name tick.1)

theorem observation?_eq_some_iff {name : String} {tick : Tick} (h : tick.names.Nodup)
    (time size : Nat) :
    tick.observation? name = some (time, size) ↔
      time = tick.1 ∧ (name, some size) ∈ tick.listing ∧ 0 < size := by
  unfold observation?
  replace h : (tick.listing.map Prod.fst).Nodup := h
  generalize tick.listing = listing at h ⊢
  induction listing with
  | nil => simp
  | cons entry rest ih =>
    rw [List.map_cons, List.nodup_cons] at h
    by_cases hname : entry.1 = name
    · -- The name is listed here, so nothing in the rest is about it.
      have hrest : (name, some size) ∉ rest := fun hmem =>
        h.1 (hname ▸ List.mem_map_of_mem (f := Prod.fst) hmem)
      have hhead : (entry :: rest).findSome? (sighting? name tick.1) =
          sighting? name tick.1 entry := by
        rw [List.findSome?_cons, findSome?_sighting?_of_not_mem (hname ▸ h.1)]
        cases sighting? name tick.1 entry <;> rfl
      rw [hhead, sighting?_eq_some_iff, List.mem_cons]
      simp only [hrest, or_false, eq_comm]
    · have hne : (name, some size) ≠ entry := fun heq => hname (heq ▸ rfl)
      rw [List.findSome?_cons, sighting?_of_ne hname, List.mem_cons]
      simpa only [hne, false_or] using ih h.2

theorem Reordered.observation?_eq {a b : Tick} (h : a.Reordered b) (hnodup : a.names.Nodup)
    (name : String) : a.observation? name = b.observation? name := by
  obtain ⟨htime, -, hperm⟩ := h
  have hnodup' : b.names.Nodup := (hperm.map Prod.fst).nodup_iff.mp hnodup
  apply Option.ext
  rintro ⟨elapsed, size⟩
  rw [observation?_eq_some_iff hnodup, observation?_eq_some_iff hnodup', htime, hperm.mem_iff]

end Tick

/-- Entries that stand at the place of their name in one directory have different names. -/
theorem nodup_names_filterMap {entries : List (Files.Location × Files.Entry)}
    {listing? : Files.Location × Files.Entry → Option (String × Option Nat)}
    (place : Files.Location) (hunique : (entries.map (·.1)).Nodup)
    (hplace : ∀ entry listed, listing? entry = some listed → entry.1 = place ++ [listed.1]) :
    ((entries.filterMap listing?).map Prod.fst).Nodup := by
  rw [List.map_filterMap]
  refine List.Pairwise.filterMap _ ?_ (List.pairwise_map.mp hunique)
  intro a b hab name hname other hother heq
  obtain ⟨listed, hlisted, rfl⟩ := Option.map_eq_some_iff.mp hname
  obtain ⟨listed', hlisted', rfl⟩ := Option.map_eq_some_iff.mp hother
  exact hab ((hplace a listed hlisted).trans (heq ▸ (hplace b listed' hlisted').symm))

/-- A tree lists no name twice. -/
theorem Tick.nodup_names_list (t : Files.Tree) (directory : Files.Path) (elapsed : Nat) :
    Tick.names (elapsed, (t.list directory).toOption) |>.Nodup := by
  unfold Tick.names Tick.listing Files.Tree.list
  split
  · simp [Except.toOption]
  · next place _ =>
    split
    · simp [Except.toOption]
    · simp [Except.toOption]
    · refine nodup_names_filterMap place t.rooted.unique ?_
      rintro ⟨below, e⟩ listed hlisted
      dsimp only at hlisted
      split at hlisted
      · simp at hlisted
      · next last hlast =>
        split at hlisted
        · next hparent =>
          obtain rfl := Option.some.inj hlisted
          rw [← hparent, List.dropLast_append_getLast? last hlast]
        · simp at hlisted

/-- The observations of a name, in the order of the ticks. -/
def observations (name : String) (ticks : List Tick) : List (Nat × Nat) :=
  ticks.filterMap (Tick.observation? name)

theorem observations_append (name : String) (before after : List Tick) :
    observations name (before ++ after) = observations name before ++ observations name after :=
  List.filterMap_append

theorem size_pos_of_observation {name : String} {ticks : List Tick}
    (h : ∀ tick ∈ ticks, tick.names.Nodup) {o : Nat × Nat} (ho : o ∈ observations name ticks) :
    0 < o.2 := by
  obtain ⟨tick, htick, hseen⟩ := List.mem_filterMap.mp ho
  exact ((Tick.observation?_eq_some_iff (h tick htick) o.1 o.2).mp hseen).2.2

theorem time_of_observation {name : String} {tick : Tick} {o : Nat × Nat}
    (h : tick.observation? name = some o) : o.1 = tick.1 := by
  obtain ⟨entry, -, hentry⟩ := List.exists_of_findSome?_eq_some h
  exact ((Tick.sighting?_eq_some_iff name tick.1 entry o.1 o.2).mp hentry).1

theorem pairwise_times_observations {name : String} {ticks : List Tick}
    (h : (ticks.map (·.1)).Pairwise (· ≤ ·)) :
    ((observations name ticks).map (·.1)).Pairwise (· ≤ ·) := by
  rw [List.pairwise_map] at h ⊢
  refine List.Pairwise.filterMap (Tick.observation? name) ?_ h
  intro a b hab o ho p hp
  rw [time_of_observation ho, time_of_observation hp]
  exact hab

namespace LogSeries

/-- A series with more observations after those it has. -/
def extend (s : LogSeries) (seen : List (Nat × Nat)) : LogSeries :=
  ⟨s.times ++ seen.map (·.1), s.sizes ++ seen.map (·.2)⟩

theorem extend_nil (s : LogSeries) : s.extend [] = s := by simp [extend]

theorem extend_append (s : LogSeries) (before after : List (Nat × Nat)) :
    s.extend (before ++ after) = (s.extend before).extend after := by
  simp [extend]

theorem points_extend_empty (seen : List (Nat × Nat)) :
    (empty.extend seen).points = seen.map fun (time, size) =>
      (wordToFloat time / 1000.0, wordToFloat size / 1024.0 / 1024.0) := by
  have hzip : (seen.map (·.1)).zip (seen.map (·.2)) = seen := by
    induction seen with
    | nil => rfl
    | cons o rest ih => simp [ih]
  simp [points, extend, empty, hzip]

end LogSeries

namespace Record

theorem series_see (r : Record) (elapsed : Nat) (entry : String × Option Nat) (name : String) :
    (r.see elapsed entry).series name =
      (r.series name).extend (Tick.sighting? name elapsed entry).toList := by
  obtain ⟨listed, size⟩ := entry
  simp only [series, see, SortedMap.get?_insert]
  by_cases h : name = listed
  · subst h
    cases size with
    | none => simp [Tick.sighting?, LogSeries.extend_nil]
    | some size =>
      by_cases hpos : 0 < size
      · simp [Tick.sighting?, Option.filter, hpos, LogSeries.extend, LogSeries.observe]
      · simp [Tick.sighting?, Option.filter, hpos, LogSeries.extend_nil]
  · rw [if_neg h, Tick.sighting?_of_ne (fun heq => h heq.symm)]
    exact (LogSeries.extend_nil _).symm

theorem mem_keys_see (r : Record) (elapsed : Nat) (entry : String × Option Nat) (name : String) :
    name ∈ (r.see elapsed entry).logs.keys ↔ name = entry.1 ∨ name ∈ r.logs.keys :=
  SortedMap.mem_keys_insert _ _ _ _

theorem poll_cons (r : Record) (elapsed : Nat) (entry : String × Option Nat) (rest : Listing) :
    r.poll elapsed (some (entry :: rest)) = (r.see elapsed entry).poll elapsed (some rest) := rfl

/-- A tick adds at most one observation to each series. -/
theorem series_poll (r : Record) (tick : Tick) (h : tick.names.Nodup) (name : String) :
    (r.poll tick.1 tick.2).series name =
      (r.series name).extend (tick.observation? name).toList := by
  obtain ⟨elapsed, listing?⟩ := tick
  cases listing? with
  | none => exact (LogSeries.extend_nil _).symm
  | some listing =>
    simp only [Tick.names, Tick.listing, Option.getD_some] at h
    induction listing generalizing r with
    | nil => exact (LogSeries.extend_nil _).symm
    | cons entry rest ih =>
      simp only [List.map_cons, List.nodup_cons] at h
      rw [poll_cons, ih (r.see elapsed entry) h.2, series_see, ← LogSeries.extend_append]
      simp only [Tick.observation?, Tick.listing, Option.getD_some, List.findSome?_cons]
      by_cases hname : entry.1 = name
      · rw [Tick.findSome?_sighting?_of_not_mem (hname ▸ h.1)]
        cases Tick.sighting? name elapsed entry <;> rfl
      · rw [Tick.sighting?_of_ne hname]
        rfl

theorem mem_keys_poll (r : Record) (tick : Tick) (name : String) :
    name ∈ (r.poll tick.1 tick.2).logs.keys ↔ name ∈ r.logs.keys ∨ name ∈ tick.names := by
  obtain ⟨elapsed, listing?⟩ := tick
  cases listing? with
  | none => simp [poll, Tick.names, Tick.listing]
  | some listing =>
    simp only [Tick.names, Tick.listing, Option.getD_some]
    induction listing generalizing r with
    | nil => simp [poll]
    | cons entry rest ih =>
      rw [poll_cons, ih (r.see elapsed entry), mem_keys_see, List.map_cons, List.mem_cons]
      tauto

theorem ascending_poll {r : Record} (h : r.logs.Ascending) (tick : Tick) :
    (r.poll tick.1 tick.2).logs.Ascending := by
  unfold poll
  induction tick.2.getD [] generalizing r with
  | nil => exact h
  | cons entry rest ih => exact ih (SortedMap.ascending_insert h _ _)

theorem watch_concat (ticks : List Tick) (tick : Tick) :
    watch (ticks ++ [tick]) = (watch ticks).poll tick.1 tick.2 := by
  simp [watch]

theorem ascending_watch (ticks : List Tick) : (watch ticks).logs.Ascending := by
  induction ticks using List.reverseRecOn with
  | nil => exact SortedMap.ascending_empty
  | append_singleton ticks tick ih =>
    rw [watch_concat]
    exact ascending_poll ih tick

theorem mem_keys_watch (ticks : List Tick) (name : String) :
    name ∈ (watch ticks).logs.keys ↔ ∃ tick ∈ ticks, name ∈ tick.names := by
  induction ticks using List.reverseRecOn with
  | nil => simp [watch, empty, SortedMap.empty, SortedMap.keys]
  | append_singleton ticks tick ih =>
    rw [watch_concat, mem_keys_poll, ih]
    simp [or_and_right, exists_or]

theorem series_watch {ticks : List Tick} (h : ∀ tick ∈ ticks, tick.names.Nodup) (name : String) :
    (watch ticks).series name = LogSeries.empty.extend (observations name ticks) := by
  induction ticks using List.reverseRecOn with
  | nil => rfl
  | append_singleton ticks tick ih =>
    have hticks : ∀ earlier ∈ ticks, earlier.names.Nodup := fun earlier hmem =>
      h earlier (List.mem_append_left _ hmem)
    have htick : tick.names.Nodup := h tick (by simp)
    rw [watch_concat, series_poll _ _ htick, ih hticks, observations_append,
      LogSeries.extend_append]
    cases hseen : tick.observation? name <;> simp [observations, hseen]

/-- Records in the same order with the same names and series are the same. -/
theorem ext_series {r s : Record} (hr : r.logs.Ascending) (hs : s.logs.Ascending)
    (hkeys : ∀ name, name ∈ r.logs.keys ↔ name ∈ s.logs.keys)
    (hseries : ∀ name, r.series name = s.series name) : r = s := by
  have hlogs : r.logs = s.logs := by
    apply SortedMap.ext_get? hr hs
    intro name
    have hsome := hkeys name
    rw [← SortedMap.isSome_get?_iff, ← SortedMap.isSome_get?_iff] at hsome
    have heq := hseries name
    simp only [series] at heq
    cases hfound : r.logs.get? name <;> cases hother : s.logs.get? name <;>
      simp_all
  cases r
  cases s
  exact congrArg Record.mk hlogs

theorem series_of_mem {r : Record} (h : r.logs.Ascending) {name : String} {s : LogSeries}
    (hmem : (name, s) ∈ r.logs.entries) : r.series name = s := by
  rw [series, (SortedMap.get?_eq_some_iff h name s).mpr hmem, Option.getD_some]

theorem poll_reordered {r : Record} (hr : r.logs.Ascending) {a b : Tick} (h : a.Reordered b)
    (ha : a.names.Nodup) : r.poll b.1 b.2 = r.poll a.1 a.2 := by
  have hnames : a.names.Perm b.names := h.2.2.map Prod.fst
  apply ext_series (ascending_poll hr b) (ascending_poll hr a)
  · intro name
    rw [mem_keys_poll, mem_keys_poll, hnames.mem_iff]
  · intro name
    rw [series_poll r b (hnames.nodup_iff.mp ha), series_poll r a ha, h.observation?_eq ha]

theorem watch_reordered {ticks others : List Tick} (h : ∀ tick ∈ ticks, tick.names.Nodup)
    (hothers : List.Forall₂ Tick.Reordered ticks others) : watch others = watch ticks := by
  have hfold : ∀ r : Record, r.logs.Ascending →
      others.foldl (fun r tick => r.poll tick.1 tick.2) r =
        ticks.foldl (fun r tick => r.poll tick.1 tick.2) r := by
    induction hothers with
    | nil => exact fun _ _ => rfl
    | @cons a b ticks others hab _ ih =>
      intro r hr
      rw [List.forall_mem_cons] at h
      rw [List.foldl_cons, List.foldl_cons, poll_reordered hr hab h.1]
      exact ih h.2 _ (ascending_poll hr a)
  exact hfold empty SortedMap.ascending_empty

/-- What is known of the record of some ticks. -/
structure Accounts (r : Record) (ticks : List Tick) : Prop where
  /-- Its names are those that were listed at some tick. -/
  names_iff : ∀ name, name ∈ r.logs.keys ↔ ∃ tick ∈ ticks, name ∈ tick.names
  /-- The series of a name has the ticks at which it had a size, and no others. -/
  series_eq : ∀ name, r.series name = LogSeries.empty.extend (observations name ticks)
  lengths_eq : ∀ entry ∈ r.logs.entries, entry.2.times.length = entry.2.sizes.length
  sizes_pos : ∀ entry ∈ r.logs.entries, ∀ size ∈ entry.2.sizes, 0 < size
  times_ascend : (ticks.map (·.1)).Pairwise (· ≤ ·) →
    ∀ entry ∈ r.logs.entries, entry.2.times.Pairwise (· ≤ ·)
  /-- A further tick leaves what is there, with at most one observation after it. -/
  extends_series : ∀ tick : Tick, tick.names.Nodup → ∀ name,
    ∃ seen : Option (Nat × Nat),
      (r.poll tick.1 tick.2).series name = (r.series name).extend seen.toList
  keeps_names : ∀ tick : Tick, ∀ name ∈ r.logs.keys, name ∈ (r.poll tick.1 tick.2).logs.keys
  poll_unlisted : ∀ elapsed, r.poll elapsed none = r
  watch_reordered : ∀ others, List.Forall₂ Tick.Reordered ticks others → watch others = r
  /-- One line for each name, in ascending order. -/
  lines_ascend : (r.timeSeries.map (·.name)).Pairwise (· < ·)
  lines_names : r.timeSeries.map (·.name) = r.logs.keys
  /-- One point for each observation. -/
  lines_points : ∀ line ∈ r.timeSeries, line.points =
    (observations line.name ticks).map fun (time, size) =>
      (wordToFloat time / 1000.0, wordToFloat size / 1024.0 / 1024.0)

theorem watch_accounts {ticks : List Tick} (h : ∀ tick ∈ ticks, tick.names.Nodup) :
    (watch ticks).Accounts ticks := by
  have hascending := ascending_watch ticks
  have hseries := series_watch h
  have hentry : ∀ entry ∈ (watch ticks).logs.entries,
      entry.2 = LogSeries.empty.extend (observations entry.1 ticks) := fun entry hmem =>
    (series_of_mem hascending hmem).symm.trans (hseries entry.1)
  constructor
  case names_iff => exact mem_keys_watch ticks
  case series_eq => exact hseries
  case lengths_eq =>
    intro entry hmem
    simp [hentry entry hmem, LogSeries.extend, LogSeries.empty]
  case sizes_pos =>
    intro entry hmem size hsize
    simp only [hentry entry hmem, LogSeries.extend, LogSeries.empty, List.nil_append] at hsize
    obtain ⟨o, ho, rfl⟩ := List.mem_map.mp hsize
    exact size_pos_of_observation h ho
  case times_ascend =>
    intro htimes entry hmem
    simp only [hentry entry hmem, LogSeries.extend, LogSeries.empty, List.nil_append]
    exact pairwise_times_observations htimes
  case extends_series =>
    intro tick htick name
    exact ⟨tick.observation? name, series_poll _ tick htick name⟩
  case keeps_names =>
    intro tick name hname
    exact (mem_keys_poll _ tick name).mpr (Or.inl hname)
  case poll_unlisted => exact fun _ => rfl
  case watch_reordered => exact fun _ hothers => watch_reordered h hothers
  case lines_ascend =>
    rw [names_timeSeries]
    exact hascending
  case lines_names => exact names_timeSeries _
  case lines_points =>
    intro line hline
    obtain ⟨⟨name, s⟩, hmem, rfl⟩ := List.mem_map.mp hline
    have hs : s = LogSeries.empty.extend (observations name ticks) := hentry (name, s) hmem
    exact hs ▸ LogSeries.points_extend_empty _

/-- A log that disappears, one that is empty at first and one whose size is never known, around a
tick at which nothing could be listed. -/
theorem watch_accounts_around_failure :
    let ticks : List Tick :=
      [(0, some [("wal.log", some 10), ("sst.log", some 0), ("lock", none)]), (100, none),
        (200, some [("lock", none), ("sst.log", some 3)]),
        (300, some [("sst.log", some 7), ("wal.log", some 13)])]
    (∀ tick ∈ ticks, tick.names.Nodup) ∧ (watch ticks).Accounts ticks ∧
      (watch ticks).logs.entries = [("lock", ⟨[], []⟩), ("sst.log", ⟨[200, 300], [3, 7]⟩),
        ("wal.log", ⟨[0, 300], [10, 13]⟩)] := by
  intro ticks
  have h : ∀ tick ∈ ticks, tick.names.Nodup := by decide
  exact ⟨h, watch_accounts h, by decide +kernel⟩

end Record

end BenchCharts.LogSize

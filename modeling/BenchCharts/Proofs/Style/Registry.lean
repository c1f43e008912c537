import BenchCharts.Proofs.Traversal
import BenchCharts.Style.Entry
import Mathlib.Data.List.Nodup

/-!
Registries by the entries they are made of. Entries with different backends make a registry, and
the first entry whose backend has come before is blamed otherwise. In a registry each backend has
the one entry that is listed for it, wherever it is listed.
-/
namespace BenchCharts.Style.Registry

def Knows (registry : Registry) (id : BackendId) : Prop := ∃ e ∈ registry.entries, e.id = id

instance (registry : Registry) (id : BackendId) : Decidable (registry.Knows id) :=
  inferInstanceAs (Decidable (∃ e ∈ registry.entries, e.id = id))

variable {registry : Registry} {id : BackendId} {ids : List BackendId}

theorem exists_lookup_eq_ok_iff : (∃ e, registry.lookup id = .ok e) ↔ registry.Knows id := by
  unfold Knows
  simp only [lookup_eq_ok_iff, ← Option.isSome_iff_exists, find?, List.find?_isSome,
    decide_eq_true_eq]

theorem lookup_eq_error_iff (e : StyleError) :
    registry.lookup id = .error e ↔ ¬ registry.Knows id ∧ e = .unknownBackend id := by
  rw [← exists_lookup_eq_ok_iff]
  unfold lookup
  split <;> simp [eq_comm]

theorem exists_lookupAll_eq_ok_iff :
    (∃ entries, registry.lookupAll ids = .ok entries) ↔ ∀ id ∈ ids, registry.Knows id := by
  unfold lookupAll
  rw [exists_mapM_eq_ok_iff]
  simp only [exists_lookup_eq_ok_iff]

theorem lookupAll_eq_error_iff (e : StyleError) :
    registry.lookupAll ids = .error e ↔ ∃ before id after, ids = before ++ id :: after ∧
      (∀ b ∈ before, registry.Knows b) ∧ ¬ registry.Knows id ∧ e = .unknownBackend id := by
  unfold lookupAll
  rw [mapM_eq_error_iff]
  simp only [exists_lookup_eq_ok_iff, lookup_eq_error_iff]

theorem both_lookup (h : registry.Knows id) :
    Both (· = ·) (registry.lookup id) (registry.lookup id) := by
  obtain ⟨e, he⟩ := exists_lookup_eq_ok_iff.mpr h
  exact ⟨e, e, he, he, rfl⟩

/-- Each backend has one entry at most. -/
def Distinct (entries : List Entry) : Prop := (entries.map (·.id)).Nodup

instance (entries : List Entry) : Decidable (Distinct entries) :=
  inferInstanceAs (Decidable (List.Nodup _))

theorem Distinct.append_singleton {entries : List Entry} (h : Distinct entries) {e : Entry}
    (he : e.id ∉ entries.map (·.id)) : Distinct (entries ++ [e]) := by
  rw [Distinct, List.map_append, List.map_singleton]
  exact List.nodup_append_comm.mp (List.nodup_cons.mpr ⟨he, h⟩)

theorem not_distinct {entries : List Entry} {e : Entry} (he : e.id ∈ entries.map (·.id))
    (after : List Entry) : ¬Distinct (entries ++ e :: after) := by
  intro h
  rw [Distinct, List.map_append, List.map_cons] at h
  exact (List.nodup_append.mp h).2.2 e.id he e.id List.mem_cons_self rfl

/-- One more entry is added if its backend is new. -/
theorem add_cons (registry : Registry) (e : Entry) (rest : List Entry) :
    add (e :: rest) registry =
      if e.id ∈ registry.entries.map (·.id) then .error (.duplicate e.id)
      else add rest ⟨registry.entries ++ [e]⟩ := by
  simp [add]

theorem add_eq_ok_iff {entries : List Entry} (h : Distinct registry.entries) (result : Registry) :
    add entries registry = .ok result ↔
      Distinct (registry.entries ++ entries) ∧ result = ⟨registry.entries ++ entries⟩ := by
  induction entries generalizing registry with
  | nil => simp [add, h, eq_comm]
  | cons e rest ih =>
    rw [add_cons]
    split
    · next hknown => simp [not_distinct hknown rest]
    · next hnew => rw [ih (h.append_singleton hnew), List.append_assoc, List.singleton_append]

theorem add_eq_error_iff {entries : List Entry} (h : Distinct registry.entries)
    (error : StyleError) :
    add entries registry = .error error ↔ ∃ before e after, entries = before ++ e :: after ∧
      Distinct (registry.entries ++ before) ∧
      e.id ∈ (registry.entries ++ before).map (·.id) ∧ error = .duplicate e.id := by
  induction entries generalizing registry with
  | nil => simp [add]
  | cons e rest ih =>
    rw [add_cons]
    split
    · next hknown =>
      constructor
      · intro herror
        exact ⟨[], e, rest, rfl, by simpa using h, by simpa using hknown,
          (Except.error.inj herror).symm⟩
      · rintro ⟨before, f, after, hsplit, hbefore, -, rfl⟩
        rcases before with _ | ⟨_, before⟩
        · rw [(List.cons.inj hsplit).1]
        · obtain rfl := (List.cons.inj hsplit).1
          exact absurd hbefore (not_distinct hknown before)
    · next hnew =>
      rw [ih (h.append_singleton hnew)]
      simp only [List.append_assoc, List.singleton_append]
      constructor
      · rintro ⟨before, f, after, rfl, hrest⟩
        exact ⟨e :: before, f, after, rfl, hrest⟩
      · rintro ⟨before, f, after, hsplit, hbefore, hf, rfl⟩
        rcases before with _ | ⟨_, before⟩
        · rw [List.append_nil, (List.cons.inj hsplit).1.symm] at hf
          exact absurd hf hnew
        · obtain ⟨rfl, rfl⟩ := List.cons.inj hsplit
          exact ⟨before, f, after, rfl, hbefore, hf, rfl⟩

theorem ofEntries_eq_ok_iff (entries : List Entry) :
    ofEntries entries = .ok registry ↔ Distinct entries ∧ registry = ⟨entries⟩ := by
  have h : Distinct (Registry.mk []).entries := List.nodup_nil
  simpa [ofEntries] using add_eq_ok_iff h registry

theorem ofEntries_eq_error_iff (entries : List Entry) (error : StyleError) :
    ofEntries entries = .error error ↔ ∃ before e after, entries = before ++ e :: after ∧
      Distinct before ∧ e.id ∈ before.map (·.id) ∧ error = .duplicate e.id := by
  have h : Distinct (Registry.mk []).entries := List.nodup_nil
  simpa [ofEntries] using add_eq_error_iff h error

theorem ofEntries_standardEntries : ofEntries standardEntries = .ok standard :=
  (ofEntries_eq_ok_iff standardEntries).mpr ⟨standardEntries_ids_nodup, rfl⟩

/-- An entry is found as soon as it is listed. -/
theorem lookup_eq_ok_iff_mem {entries : List Entry} (h : Distinct entries) (id : BackendId)
    (e : Entry) : lookup ⟨entries⟩ id = .ok e ↔ e ∈ entries ∧ e.id = id := by
  rw [lookup_eq_ok_iff]
  constructor
  · intro hfind
    exact ⟨List.mem_of_find?_eq_some hfind, id_of_find? _ _ _ hfind⟩
  · rintro ⟨hmem, rfl⟩
    apply find?_eq_of_unique
    · intro x hx hid
      exact congrArg some (List.inj_on_of_nodup_map h hmem hx (of_decide_eq_true hid).symm)
    · rintro _ ⟨⟩
      exact ⟨hmem, decide_eq_true rfl⟩

/-- What a registry answers, read off the entries that are listed. -/
structure Answers (registry : Registry) (entries : List Entry) : Prop where
  /-- The entry that is found is the only one that is listed for its backend. -/
  lookup_ok : ∀ id e, registry.lookup id = .ok e ↔ ∀ x, x ∈ entries ∧ x.id = id ↔ x = e
  lookup_error : ∀ id error, registry.lookup id = .error error ↔
    (∀ e ∈ entries, e.id ≠ id) ∧ error = .unknownBackend id
  lookupAll_ok : ∀ ids found, registry.lookupAll ids = .ok found ↔
    List.Forall₂ (fun id e => e ∈ entries ∧ e.id = id) ids found
  exists_lookupAll : ∀ ids, (∃ found, registry.lookupAll ids = .ok found) ↔
    ∀ id ∈ ids, ∃ e ∈ entries, e.id = id
  lookupAll_error : ∀ ids error, registry.lookupAll ids = .error error ↔
    ∃ before id after, ids = before ++ id :: after ∧ (∀ b ∈ before, ∃ e ∈ entries, e.id = b) ∧
      (∀ e ∈ entries, e.id ≠ id) ∧ error = .unknownBackend id

theorem answers_of_distinct {entries : List Entry} (h : Distinct entries) :
    Answers ⟨entries⟩ entries where
  lookup_ok id e := by
    have hfound := lookup_eq_ok_iff_mem h id
    simp only [← hfound]
    constructor
    · intro hlookup x
      simp [hlookup, eq_comm]
    · exact fun hunique => (hunique e).mpr rfl
  lookup_error id error := by
    rw [lookup_eq_error_iff, Knows]
    simp
  lookupAll_ok ids found := by
    rw [lookupAll, mapM_eq_ok_iff]
    simp only [lookup_eq_ok_iff_mem h]
  exists_lookupAll ids := exists_lookupAll_eq_ok_iff
  lookupAll_error ids error := by
    rw [lookupAll_eq_error_iff]
    simp [Knows]

/-- Registries that list the same entries give the same answers. -/
theorem lookup_eq_of_perm {entries others : List Entry} (h : Distinct entries)
    (hperm : others.Perm entries) (id : BackendId) :
    lookup ⟨others⟩ id = lookup ⟨entries⟩ id := by
  have hothers : Distinct others := ((hperm.map _).nodup_iff).mpr h
  cases hlookup : lookup ⟨entries⟩ id with
  | ok e =>
    rw [lookup_eq_ok_iff_mem h] at hlookup
    exact (lookup_eq_ok_iff_mem hothers id e).mpr ⟨hperm.mem_iff.mpr hlookup.1, hlookup.2⟩
  | error error =>
    rw [lookup_eq_error_iff, Knows] at hlookup ⊢
    simpa only [hperm.mem_iff] using hlookup

/-- Entries make a registry if their backends are different, and the first one that repeats a
backend is blamed otherwise. The registry has what is listed, in whatever order it is listed. -/
theorem entries_registered (entries : List Entry) :
    ((∃ registry, ofEntries entries = .ok registry) ↔ (entries.map (·.id)).Nodup) ∧
    (∀ error, ofEntries entries = .error error ↔
      ∃ before e after, entries = before ++ e :: after ∧ (before.map (·.id)).Nodup ∧
        e.id ∈ before.map (·.id) ∧ error = .duplicate e.id) ∧
    ∀ registry, ofEntries entries = .ok registry → registry.Answers entries ∧
      ∀ others, others.Perm entries → ∃ other, ofEntries others = .ok other ∧
        ∀ id, other.lookup id = registry.lookup id := by
  refine ⟨?_, ofEntries_eq_error_iff entries, ?_⟩
  · simp only [ofEntries_eq_ok_iff, exists_and_left, exists_eq, and_true]
    rfl
  · intro registry hregistry
    obtain ⟨hdistinct, rfl⟩ := (ofEntries_eq_ok_iff entries).mp hregistry
    refine ⟨answers_of_distinct hdistinct, ?_⟩
    intro others hperm
    have hothers : Distinct others := ((hperm.map _).nodup_iff).mpr hdistinct
    exact ⟨⟨others⟩, (ofEntries_eq_ok_iff others).mpr ⟨hothers, rfl⟩,
      lookup_eq_of_perm hdistinct hperm⟩

/-- The standard entries from the last to the first. -/
theorem entries_registered_reverse :
    ofEntries standardEntries = .ok standard ∧ standard.Answers standardEntries ∧
      standardEntries.reverse.Perm standardEntries ∧
      ∃ other, ofEntries standardEntries.reverse = .ok other ∧
        ∀ id, other.lookup id = standard.lookup id := by
  have hperm := List.reverse_perm standardEntries
  obtain ⟨hanswers, hothers⟩ := (entries_registered standardEntries).2.2 _ ofEntries_standardEntries
  exact ⟨ofEntries_standardEntries, hanswers, hperm, hothers _ hperm⟩

end BenchCharts.Style.Registry

import BenchCharts.Proofs.Files.Directories

/-!
Two trees that go through the same changes. Wherever one of them changes, both have the same in the
end, or at least two files that may differ in their texts. So changes that are made again change
nothing more, and a tree that only grew in between is the same again.
-/
namespace BenchCharts.Files

def Entry.isDirectory : Entry → Bool
  | .file _ => false
  | .directory => true

/-- Nothing, a directory or a file in both cases, and also the same file if texts are compared. -/
def Matches (texts : Prop) (e e' : Option Entry) : Prop :=
  (texts → e = e') ∧ e.map Entry.isDirectory = e'.map Entry.isDirectory

theorem Matches.directory_iff {texts : Prop} {e e' : Option Entry} (h : Matches texts e e') :
    e = some .directory ↔ e' = some .directory := by
  have hkind : ∀ e : Option Entry, e = some .directory ↔ e.map Entry.isDirectory = some true := by
    intro e
    rcases e with _ | (_ | _) <;> simp [Entry.isDirectory]
  rw [hkind, hkind, h.2]

theorem Matches.none_iff {texts : Prop} {e e' : Option Entry} (h : Matches texts e e') :
    e = none ↔ e' = none := by
  rw [← Option.map_eq_none_iff, h.2, Option.map_eq_none_iff]

namespace Tree

/-- While `t` becomes `t'` and `u` becomes `u'`, both change at the same places, and alike. -/
def Parallel (texts : Prop) (t t' u u' : Tree) : Prop :=
  ∀ p, Matches texts (t'.at? p) (u'.at? p) ∨ (t'.at? p = t.at? p ∧ u'.at? p = u.at? p)

variable {texts : Prop} {t t' t'' u u' u'' : Tree} {place : Location}

theorem matches_of_eq {e e' : Option Entry} (h : e = e') : Matches texts e e' :=
  ⟨fun _ => h, by rw [h]⟩

namespace Parallel

theorem refl (texts : Prop) (t u : Tree) : Parallel texts t t u u := fun _ => Or.inr ⟨rfl, rfl⟩

theorem trans (h : Parallel texts t t' u u') (h' : Parallel texts t' t'' u' u'') :
    Parallel texts t t'' u u'' := by
  intro p
  rcases h' p with hmatches | ⟨ht, hu⟩
  · exact Or.inl hmatches
  · rw [ht, hu]
    exact h p

theorem makeDirectories {p : Path} (h : Akin p t u) :
    Parallel texts t (t.makeDirectories p).1 u (u.makeDirectories p).1 := by
  intro q
  rcases addsDirectories_makeDirectories t p q with ht | ⟨-, ht⟩
  · rcases addsDirectories_makeDirectories u p q with hu | ⟨-, hu⟩
    · exact Or.inr ⟨ht, hu⟩
    · exact Or.inl (matches_of_eq ((h.same.2 q hu).trans hu.symm))
  · exact Or.inl (matches_of_eq (ht.trans (h.same.1 q ht).symm))

theorem put {x y : Content} (ht : t.Accepts place) (hu : u.Accepts place) (h : texts → x = y) :
    Parallel texts t (t.put place (.file x)) u (u.put place (.file y)) := by
  intro q
  rw [at?_put t place q _ ht, at?_put u place q _ hu]
  by_cases hq : q = place
  · rw [if_pos hq, if_pos hq]
    left
    exact ⟨fun htexts => by rw [h htexts], rfl⟩
  · rw [if_neg hq, if_neg hq]
    exact Or.inr ⟨rfl, rfl⟩

/-- Changes that are made to a tree, and then once more to what came of it. -/
theorem again (h : Parallel texts t u u u') (p : Location) :
    Matches texts (u.at? p) (u'.at? p) := by
  rcases h p with hmatches | ⟨-, hu⟩
  · exact hmatches
  · exact matches_of_eq hu.symm

end Parallel

/-- The listed locations are those where something is that is not given. -/
theorem mem_places_iff (t : Tree) (p : Location) :
    p ∈ t.places ↔ t.at? p ≠ none ∧ ¬ IsGiven p := by
  unfold places
  constructor
  · intro h
    have hgiven := t.rooted.listed p h
    refine ⟨?_, hgiven⟩
    unfold at? entryAt
    rw [if_neg hgiven, ne_eq, List.lookup_eq_none_iff]
    intro hall
    obtain ⟨⟨p', e⟩, hmem, rfl⟩ := List.mem_map.mp h
    simpa using hall _ hmem
  · rintro ⟨hthere, hgiven⟩
    obtain ⟨e, he⟩ := Option.ne_none_iff_exists'.mp hthere
    exact mem_keys_of_at? he hgiven

/-- A tree that only grew, but nowhere holds more than before, has the same places. -/
theorem places_eq_of_prefix (hgrown : t.places <+: u.places)
    (h : ∀ p, u.at? p ≠ none → t.at? p ≠ none) : t.places = u.places := by
  obtain ⟨more, hmore⟩ := hgrown
  cases more with
  | nil => rw [← hmore, List.append_nil]
  | cons p rest =>
    have hmem : p ∈ u.places := by simp [← hmore]
    obtain ⟨hthere, hgiven⟩ := (mem_places_iff u p).mp hmem
    have hold : p ∈ t.places := (mem_places_iff t p).mpr ⟨h p hthere, hgiven⟩
    -- It would be listed twice.
    have hunique := u.rooted.unique
    change u.places.Nodup at hunique
    rw [← hmore, List.nodup_append] at hunique
    exact absurd rfl (hunique.2.2 p hold p List.mem_cons_self)

theorem ext_of_lookup {l m : List (Location × Entry)} (hkeys : l.map (·.1) = m.map (·.1))
    (hunique : (l.map (·.1)).Nodup) (h : ∀ p ∈ l.map (·.1), l.lookup p = m.lookup p) : l = m := by
  induction l generalizing m with
  | nil => exact (List.map_eq_nil_iff.mp hkeys.symm).symm
  | cons head rest ih =>
    obtain ⟨p, e⟩ := head
    cases m with
    | nil => simp at hkeys
    | cons head' rest' =>
      obtain ⟨p', e'⟩ := head'
      simp only [List.map_cons, List.cons.injEq] at hkeys
      obtain ⟨rfl, hrest⟩ := hkeys
      simp only [List.map_cons, List.nodup_cons] at hunique
      have he : e = e' := by simpa using h p (by simp)
      subst he
      congr 1
      apply ih hrest hunique.2
      intro q hq
      have hne : (q == p) = false := by
        rw [beq_eq_false_iff_ne]
        rintro rfl
        exact hunique.1 hq
      have hlookup := h q (by simp [hq])
      rwa [List.lookup_cons, List.lookup_cons, hne] at hlookup

theorem ext_of_at? (hplaces : t.places = u.places) (h : ∀ p, t.at? p = u.at? p) : t = u := by
  have hentries : t.entries = u.entries := by
    apply ext_of_lookup hplaces t.rooted.unique
    intro p hp
    have hgiven := t.rooted.listed p hp
    have hp := h p
    unfold at? entryAt at hp
    rwa [if_neg hgiven, if_neg hgiven] at hp
  cases t
  cases u
  congr

end Tree

end BenchCharts.Files

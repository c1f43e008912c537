import BenchCharts.SortedMap
import Mathlib.Data.List.Sort
import Mathlib.Data.String.Basic

/-!
Maps whose keys ascend. Every map that is built by inserting is one of them. Such a map is known
from what is found under each key, and inserting its entries one after the other gives it back.
-/
namespace BenchCharts.SortedMap

variable {ν : Type}

def Ascending (m : SortedMap ν) : Prop := m.keys.Pairwise (· < ·)

instance (m : SortedMap ν) : Decidable m.Ascending :=
  inferInstanceAs (Decidable (List.Pairwise _ _))

theorem ascending_empty : (empty : SortedMap ν).Ascending := List.Pairwise.nil

theorem isSome_get?_iff (m : SortedMap ν) (key : String) :
    (m.get? key).isSome = true ↔ key ∈ m.keys := by
  obtain ⟨entries⟩ := m
  simp only [get?, keys]
  induction entries with
  | nil => simp
  | cons entry rest ih =>
    obtain ⟨k, v⟩ := entry
    by_cases h : key = k
    · simp [h]
    · have hb : (key == k) = false := by simpa using h
      simp [List.lookup_cons, hb, h, ih]

theorem mem_keys_insert (m : SortedMap ν) (key other : String) (value : ν) :
    other ∈ (m.insert key value).keys ↔ other = key ∨ other ∈ m.keys := by
  rw [← isSome_get?_iff, ← isSome_get?_iff, get?_insert]
  by_cases h : other = key <;> simp [h]

theorem ascending_insert {m : SortedMap ν} (h : m.Ascending) (key : String) (value : ν) :
    (m.insert key value).Ascending := by
  obtain ⟨entries⟩ := m
  simp only [Ascending, keys, insert] at h ⊢
  induction entries with
  | nil => simp [insertInto]
  | cons entry rest ih =>
    obtain ⟨k, v⟩ := entry
    rw [List.map_cons, List.pairwise_cons] at h
    unfold insertInto
    split
    · next hlt =>
      simp only [List.map_cons, List.pairwise_cons, List.mem_cons]
      refine ⟨?_, h⟩
      rintro a (rfl | ha)
      · exact hlt
      · exact lt_trans hlt (h.1 a ha)
    · next hnot =>
      split
      · next heq =>
        subst heq
        simpa using h
      · next hne =>
        have hlt : k < key := lt_of_le_of_ne (not_lt.mp hnot) (Ne.symm hne)
        rw [List.map_cons, List.pairwise_cons]
        refine ⟨?_, ih h.2⟩
        intro a ha
        rcases (mem_keys_insert ⟨rest⟩ key a value).mp ha with rfl | ha
        · exact hlt
        · exact h.1 a ha

/-- What stands under a key is found there. -/
theorem get?_eq_some_iff {m : SortedMap ν} (h : m.Ascending) (key : String) (value : ν) :
    m.get? key = some value ↔ (key, value) ∈ m.entries := by
  obtain ⟨entries⟩ := m
  simp only [Ascending, keys, get?] at h ⊢
  induction entries with
  | nil => simp
  | cons entry rest ih =>
    obtain ⟨k, v⟩ := entry
    rw [List.map_cons, List.pairwise_cons] at h
    rw [List.mem_cons]
    by_cases hkey : key = k
    · subst hkey
      have hnot : (key, value) ∉ rest := fun hmem =>
        lt_irrefl key (h.1 key (List.mem_map_of_mem hmem))
      simp [hnot, eq_comm]
    · have hb : (key == k) = false := by simpa using hkey
      simp [List.lookup_cons, hb, hkey, ih h.2]

theorem ext_get? {m n : SortedMap ν} (hm : m.Ascending) (hn : n.Ascending)
    (h : ∀ key, m.get? key = n.get? key) : m = n := by
  have hmem : ∀ entry, entry ∈ m.entries ↔ entry ∈ n.entries := by
    rintro ⟨key, value⟩
    rw [← get?_eq_some_iff hm, ← get?_eq_some_iff hn, h]
  have byKey : ∀ {o : SortedMap ν}, o.Ascending → o.entries.Pairwise fun a b => a.1 < b.1 :=
    fun ho => List.pairwise_map.mp ho
  have nodup : ∀ {o : SortedMap ν}, o.Ascending → o.entries.Nodup := fun ho =>
    (byKey ho).imp fun {a b} hlt heq => ne_of_lt hlt (congrArg Prod.fst heq)
  have hperm : m.entries.Perm n.entries :=
    (List.perm_ext_iff_of_nodup (nodup hm) (nodup hn)).mpr hmem
  have hentries : m.entries = n.entries :=
    hperm.eq_of_pairwise (fun a b _ _ hab hba => absurd hba (lt_asymm hab)) (byKey hm) (byKey hn)
  cases m
  cases n
  simpa using hentries

theorem insertInto_of_greatest (key : String) (value : ν) (entries : List (String × ν))
    (h : ∀ entry ∈ entries, entry.1 < key) :
    insertInto key value entries = entries ++ [(key, value)] := by
  induction entries with
  | nil => rfl
  | cons entry rest ih =>
    obtain ⟨k, v⟩ := entry
    rw [List.forall_mem_cons] at h
    have hnot : ¬ key < k := lt_asymm h.1
    have hne : key ≠ k := (ne_of_lt h.1).symm
    rw [insertInto, if_neg hnot, if_neg hne, ih h.2, List.cons_append]

theorem ofList_entries {m : SortedMap ν} (h : m.Ascending) : ofList m.entries = m := by
  -- The entries inserted so far stand before all that are still to come.
  have hfold : ∀ (rest before : List (String × ν)),
      ((before ++ rest).map (·.1)).Pairwise (· < ·) →
        rest.foldl (fun m entry => m.insert entry.1 entry.2) (⟨before⟩ : SortedMap ν) =
          ⟨before ++ rest⟩ := by
    intro rest
    induction rest with
    | nil => simp
    | cons entry rest ih =>
      intro before hsorted
      obtain ⟨key, value⟩ := entry
      have hgreatest : ∀ e ∈ before, e.1 < key := by
        intro e he
        rw [List.map_append, List.pairwise_append] at hsorted
        exact hsorted.2.2 e.1 (List.mem_map_of_mem he) key (by simp)
      have hinsert : (⟨before⟩ : SortedMap ν).insert key value = ⟨before ++ [(key, value)]⟩ := by
        rw [insert, insertInto_of_greatest key value before hgreatest]
      have hrest := ih (before ++ [(key, value)]) (by simpa using hsorted)
      rw [← hinsert, List.append_assoc, List.singleton_append] at hrest
      exact hrest
  exact hfold m.entries [] h

end BenchCharts.SortedMap

/-!
Finite maps from texts, listed in ascending order of their keys. A key stands once; inserting it
again replaces its value.
-/
namespace BenchCharts

structure SortedMap (ν : Type) where
  entries : List (String × ν)
  deriving Repr, BEq

namespace SortedMap
variable {ν : Type}

def empty : SortedMap ν := ⟨[]⟩

instance : Inhabited (SortedMap ν) := ⟨empty⟩

def insertInto (key : String) (value : ν) : List (String × ν) → List (String × ν)
  | [] => [(key, value)]
  | (k, v) :: rest =>
      if key < k then (key, value) :: (k, v) :: rest
      else if key = k then (key, value) :: rest
      else (k, v) :: insertInto key value rest

def insert (m : SortedMap ν) (key : String) (value : ν) : SortedMap ν :=
  ⟨insertInto key value m.entries⟩

def get? (m : SortedMap ν) (key : String) : Option ν := m.entries.lookup key

def contains (m : SortedMap ν) (key : String) : Bool := (m.get? key).isSome

def keys (m : SortedMap ν) : List String := m.entries.map (·.1)

/-- Later entries replace earlier ones of the same key. -/
def ofList (entries : List (String × ν)) : SortedMap ν :=
  entries.foldl (fun m (key, value) => m.insert key value) empty

theorem get?_empty (key : String) : (empty : SortedMap ν).get? key = none := rfl

private theorem lookup_cons_if (key other : String) (value : ν) (rest : List (String × ν)) :
    ((key, value) :: rest).lookup other =
      if other = key then some value else rest.lookup other := by
  by_cases h : other = key
  · simp [h]
  · have hb : (other == key) = false := by simpa using h
    simp [List.lookup_cons, hb, h]

private theorem lookup_insertInto (key other : String) (value : ν) (entries : List (String × ν)) :
    (insertInto key value entries).lookup other =
      if other = key then some value else entries.lookup other := by
  induction entries with
  | nil => exact lookup_cons_if key other value []
  | cons entry rest ih =>
    obtain ⟨k, v⟩ := entry
    unfold insertInto
    split
    · exact lookup_cons_if key other value _
    · split
      · next heq =>
        subst heq
        rw [lookup_cons_if, lookup_cons_if]
        split <;> rfl
      · next hne =>
        rw [lookup_cons_if, lookup_cons_if, ih]
        by_cases h : other = k
        · have hk : ¬ k = key := fun e => hne e.symm
          simp [h, hk]
        · simp [h]

theorem get?_insert (m : SortedMap ν) (key other : String) (value : ν) :
    (m.insert key value).get? other = if other = key then some value else m.get? other :=
  lookup_insertInto key other value m.entries

end SortedMap

end BenchCharts

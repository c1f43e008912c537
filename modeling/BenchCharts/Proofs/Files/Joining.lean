import BenchCharts.Files.Path
import Mathlib.Data.List.Basic

/-!
Paths with a plain name joined to them. The joined path starts where the path does, takes its steps
and then one more to the name, however many slashes the path ends in. The path before the last of
two joined names is the one that the first of them gave. A joined name may also have slashes, as
long as plain names stand between them.
-/
namespace BenchCharts.Files

/-- A name that a file or directory can have below another one. -/
def PlainName (name : String) : Prop :=
  name ≠ "" ∧ '/' ∉ name.toList ∧ name ≠ "." ∧ name ≠ ".."

instance (name : String) : Decidable (PlainName name) := inferInstanceAs (Decidable (_ ∧ _))

theorem PlainName.head?_ne {name : String} (hname : PlainName name) :
    name.toList.head? ≠ some '/' := by
  intro h
  exact hname.2.1 (List.mem_of_mem_head? h)

/-- A name with an extension is neither empty nor one of the dots. -/
theorem plainName_extension {stem extension : String} (hstem : '/' ∉ stem.toList)
    (hextension : '/' ∉ extension.toList) (hlong : 2 < extension.toList.length) :
    PlainName (stem ++ extension) := by
  have hlength : 2 < (stem ++ extension).toList.length := by
    rw [String.toList_append, List.length_append]
    omega
  refine ⟨?_, ?_, ?_, ?_⟩
  · intro h
    simp [h] at hlength
  · rw [String.toList_append, List.mem_append, not_or]
    exact ⟨hstem, hextension⟩
  · intro h
    simp [h] at hlength
  · intro h
    simp [h] at hlength

namespace Path

/-- Where the steps of a path start. -/
def origin (p : Path) : List String := if p.isAbsolute then ["/"] else []

/-- The names between the slashes. -/
def names (p : Path) : List String :=
  ((splitSlashes p.text.toList).filter fun piece => !piece.isEmpty).map String.ofList

theorem splitSlashes_append (a b : List Char) :
    splitSlashes (a ++ '/' :: b) = splitSlashes a ++ splitSlashes b := by
  induction a with
  | nil => simp [splitSlashes]
  | cons c rest ih =>
    rw [List.cons_append, splitSlashes, splitSlashes]
    by_cases hc : c = '/'
    · rw [if_pos hc, if_pos hc, ih]
      rfl
    · rw [if_neg hc, if_neg hc, ih]
      cases hrest : splitSlashes rest with
      | nil => exact absurd hrest (splitSlashes_ne_nil rest)
      | cons piece pieces => rfl

theorem splitSlashes_plain {cs : List Char} (h : '/' ∉ cs) : splitSlashes cs = [cs] := by
  induction cs with
  | nil => rfl
  | cons c rest ih =>
    rw [List.mem_cons, not_or] at h
    rw [splitSlashes, if_neg (Ne.symm h.1), ih h.2]

variable {name directory : String}

/-- The text of a joined path: nothing or some text with a slash, and then the name. -/
theorem toList_join (p : Path) (hhead : name.toList.head? ≠ some '/') :
    (p.text.toList = [] ∧ (p.join name).text.toList = name.toList) ∨
      ∃ stem, (p.text.toList = stem ∨ p.text.toList = stem ++ ['/']) ∧ p.text.toList ≠ [] ∧
        (p.join name).text.toList = stem ++ '/' :: name.toList := by
  unfold join
  rw [if_neg hhead]
  by_cases hempty : p.text.toList = []
  · left
    refine ⟨hempty, ?_⟩
    simp [hempty]
  · right
    by_cases hslash : p.text.toList.getLast?.all (· = '/') = true
    · have hlast : p.text.toList.getLast hempty = '/' := by
        rw [List.getLast?_eq_some_getLast hempty] at hslash
        simpa using hslash
      have hback := List.dropLast_concat_getLast hempty
      rw [hlast] at hback
      refine ⟨p.text.toList.dropLast, Or.inr hback.symm, hempty, ?_⟩
      rw [if_pos hslash, String.toList_append]
      conv => lhs; rw [← hback]
      simp
    · refine ⟨p.text.toList, Or.inl rfl, hempty, ?_⟩
      rw [if_neg hslash]
      simp

theorem isAbsolute_join (p : Path) (hhead : name.toList.head? ≠ some '/') :
    (p.join name).isAbsolute = p.isAbsolute := by
  unfold isAbsolute
  rw [decide_eq_decide]
  rcases toList_join p hhead with ⟨hempty, hjoin⟩ | ⟨stem, hstem, hne, hjoin⟩
  · rw [hempty, hjoin]
    simp only [List.head?_nil, reduceCtorEq, iff_false]
    exact hhead
  · rw [hjoin]
    rcases hstem with hstem | hstem
    · rw [hstem] at hne ⊢
      cases stem with
      | nil => contradiction
      | cons c rest => rfl
    · rw [hstem]
      cases stem with
      | nil => rfl
      | cons c rest => rfl

theorem origin_join (p : Path) (hname : PlainName name) : (p.join name).origin = p.origin := by
  unfold origin
  rw [isAbsolute_join p hname.head?_ne]

theorem splitSlashes_join (p : Path) (hhead : name.toList.head? ≠ some '/') :
    ∃ above, splitSlashes (p.join name).text.toList = above ++ splitSlashes name.toList ∧
      (above.filter fun piece => !piece.isEmpty).map String.ofList = p.names := by
  unfold names
  rcases toList_join p hhead with ⟨hempty, hjoin⟩ | ⟨stem, hstem, -, hjoin⟩
  · refine ⟨[], ?_, ?_⟩
    · rw [hjoin, List.nil_append]
    · rw [hempty]
      rfl
  · refine ⟨splitSlashes stem, ?_, ?_⟩
    · rw [hjoin, splitSlashes_append]
    · rcases hstem with hstem | hstem
      · rw [hstem]
      · rw [hstem, splitSlashes_append]
        simp [splitSlashes]

theorem names_join (p : Path) (hname : PlainName name) :
    (p.join name).names = p.names ++ [name] := by
  obtain ⟨above, hsplit, habove⟩ := splitSlashes_join p hname.head?_ne
  rw [splitSlashes_plain hname.2.1] at hsplit
  rw [← habove]
  unfold names
  simp [hsplit, hname.1]

/-- The names between the slashes of a name. -/
def pieces (name : String) : List String := (splitSlashes name.toList).map String.ofList

theorem splitSlashes_eq_splitOn (cs : List Char) : splitSlashes cs = cs.splitOn '/' := by
  induction cs with
  | nil => rfl
  | cons c rest ih =>
    rw [splitSlashes, ih, List.splitOn_cons_eq_if_modifyHead]
    by_cases hc : c = '/'
    · simp [hc]
    · cases h : rest.splitOn '/' with
      | nil => exact absurd h (List.splitOn_ne_nil _ _)
      | cons piece more => simp [hc]

theorem pieces_injective : Function.Injective pieces := by
  intro a b h
  have hsplit := (List.map_inj_right fun _ _ => String.ofList_inj.mp).mp h
  rw [splitSlashes_eq_splitOn, splitSlashes_eq_splitOn] at hsplit
  have hlists := congrArg (List.intercalate ['/']) hsplit
  rw [List.intercalate_splitOn, List.intercalate_splitOn] at hlists
  exact String.toList_inj.mp hlists

/-- All names between the slashes are plain. -/
def PlainPieces (name : String) : Prop := ∀ piece ∈ pieces name, PlainName piece

instance (name : String) : Decidable (PlainPieces name) :=
  inferInstanceAs (Decidable (∀ piece ∈ pieces name, PlainName piece))

theorem PlainPieces.head?_ne (h : PlainPieces name) : name.toList.head? ≠ some '/' := by
  intro hhead
  obtain ⟨rest, hrest⟩ := List.head?_eq_some_iff.mp hhead
  have hempty : "" ∈ pieces name := by
    unfold pieces
    rw [hrest]
    exact List.mem_map.mpr ⟨[], by simp [splitSlashes], rfl⟩
  exact (h "" hempty).1 rfl

/-- No dot comes after the last name. -/
theorem steps_join (p : Path) (hname : PlainName name) :
    (p.join name).steps = p.names ++ [name] := by
  obtain ⟨above, hsplit, -⟩ := splitSlashes_join p hname.head?_ne
  rw [splitSlashes_plain hname.2.1] at hsplit
  rw [← names_join p hname]
  unfold steps names
  simp [hsplit, hname.1]

theorem steps_join_pieces (p : Path) (h : PlainPieces name) :
    (p.join name).origin = p.origin ∧ (p.join name).steps = p.names ++ pieces name := by
  obtain ⟨above, hsplit, habove⟩ := splitSlashes_join p h.head?_ne
  have hfull : ∀ piece ∈ splitSlashes name.toList, piece ≠ [] := by
    rintro piece hpiece rfl
    exact (h "" (List.mem_map_of_mem hpiece)).1 rfl
  have hfilter : (splitSlashes name.toList).filter (fun piece => !piece.isEmpty) =
      splitSlashes name.toList := by
    rw [List.filter_eq_self]
    intro piece hpiece
    simpa using hfull piece hpiece
  have hlast : (splitSlashes (p.join name).text.toList).getLast? ≠ some [] := by
    have hne := splitSlashes_ne_nil name.toList
    rw [hsplit, List.getLast?_append, List.getLast?_eq_some_getLast hne, Option.some_or, ne_eq,
      Option.some_inj]
    exact hfull _ (List.getLast_mem hne)
  constructor
  · unfold origin
    rw [isAbsolute_join p h.head?_ne]
  · unfold steps
    dsimp only
    rw [if_neg hlast, hsplit, List.filter_append, List.map_append, habove, hfilter]
    rfl

/-- Nothing is trimmed from a path that ends in a plain name. -/
theorem trimEnd_plain (hname : PlainName name) (above : List Char) :
    trimEnd (name.toList.reverse ++ above) = name.toList.reverse ++ above := by
  obtain ⟨hempty, hslash, hdot, -⟩ := hname
  cases hreverse : name.toList.reverse with
  | nil =>
    rw [List.reverse_eq_nil_iff, String.toList_eq_nil_iff] at hreverse
    contradiction
  | cons c rest =>
    have hmem : ∀ d ∈ c :: rest, d ≠ '/' := by
      intro d hd
      rw [← hreverse, List.mem_reverse] at hd
      rintro rfl
      exact hslash hd
    rw [List.cons_append]
    unfold trimEnd
    split
    · next h => exact absurd (List.cons.inj h).1 (hmem c List.mem_cons_self)
    · next h => exact absurd (List.cons.inj h).1 (hmem c List.mem_cons_self)
    · next h =>
      -- A single dot is no plain name, so something else stands before it.
      obtain ⟨rfl, htail⟩ := List.cons.inj h
      cases rest with
      | nil =>
        have hname : name.toList = ['.'] := by simpa using congrArg List.reverse hreverse
        exact absurd (String.toList_inj.mp hname) hdot
      | cons d more =>
        rw [List.cons_append] at htail
        exact absurd (List.cons.inj htail).1 (hmem d (by simp))
    · rfl

theorem exists_toList_join (p : Path) (hname : PlainName name) :
    ∃ above, (p.join name).text.toList = above ++ name.toList := by
  rcases toList_join p hname.head?_ne with ⟨-, h⟩ | ⟨stem, -, -, h⟩
  · exact ⟨[], h⟩
  · exact ⟨stem ++ ['/'], by simp [h]⟩

theorem toList_join_join (p : Path) (hdirectory : PlainName directory) (hname : PlainName name) :
    ((p.join directory).join name).text.toList =
      (p.join directory).text.toList ++ '/' :: name.toList := by
  obtain ⟨above, habove⟩ := exists_toList_join p hdirectory
  have hne : directory.toList ≠ [] := by simpa using hdirectory.1
  rcases toList_join (p.join directory) hname.head?_ne with
    ⟨hempty, -⟩ | ⟨stem, hstem | hstem, -, hjoin⟩
  · simp [habove, hdirectory.1] at hempty
  · rw [hjoin, hstem]
  · -- The directory does not end in a slash.
    have hlast : directory.toList.getLast? = some '/' := by
      have h := congrArg List.getLast? (habove.symm.trans hstem)
      rwa [List.getLast?_append, List.getLast?_concat, List.getLast?_eq_some_getLast hne,
        Option.some_or, ← List.getLast?_eq_some_getLast hne] at h
    exact absurd (List.mem_of_getLast? hlast) hdirectory.2.1

theorem parent?_join_join (p : Path) (hdirectory : PlainName directory) (hname : PlainName name) :
    ((p.join directory).join name).parent? = some (p.join directory) := by
  obtain ⟨above, habove⟩ := exists_toList_join p hdirectory
  have hreverse : trimEnd (p.join directory).text.toList.reverse =
      (p.join directory).text.toList.reverse := by
    rw [habove, List.reverse_append, trimEnd_plain hdirectory]
  have hne : (p.join directory).text.toList.reverse ≠ [] := by simp [habove, hdirectory.1]
  have hfromEnd : ((p.join directory).join name).fromEnd =
      name.toList.reverse ++ '/' :: (p.join directory).text.toList.reverse := by
    unfold fromEnd
    rw [toList_join_join p hdirectory hname, List.reverse_append, List.reverse_cons,
      List.append_assoc, List.singleton_append, trimEnd_plain hname]
  have hdrop : ((p.join directory).join name).fromEnd.dropWhile notSlash =
      '/' :: (p.join directory).text.toList.reverse := by
    rw [hfromEnd, List.dropWhile_append_of_pos]
    · simp [notSlash]
    · intro c hc
      rw [List.mem_reverse] at hc
      unfold notSlash
      rw [bne_iff_ne]
      rintro rfl
      exact hname.2.1 hc
  unfold parent?
  split
  · next h => simp [h] at hdrop
  · next h =>
    rw [h] at hdrop
    exact absurd (List.cons.inj hdrop).2.symm hne
  · rw [hdrop]
    dsimp only
    have htrim : trimEnd ('/' :: (p.join directory).text.toList.reverse) =
        (p.join directory).text.toList.reverse := by
      cases h : (p.join directory).text.toList.reverse with
      | nil => contradiction
      | cons c rest =>
        rw [h] at hreverse
        rw [trimEnd, hreverse]
        simp
    rw [htrim, List.reverse_reverse, String.ofList_toList]

end Path

end BenchCharts.Files

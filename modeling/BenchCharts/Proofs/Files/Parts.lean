import BenchCharts.Proofs.Files.Places

/-!
The parts by which paths are compared. Slashes in a row count as one, a slash at the end counts for
nothing, and neither does a single dot, unless it stands at the start of a relative path.
-/
namespace BenchCharts.Files.Path

/-- The parts of a path from its names. -/
def partsOf (absolute : Bool) (names : List String) : List String :=
  if absolute then "/" :: names.filter (· ≠ ".")
  else names.take 1 ++ (names.drop 1).filter (· ≠ ".")

def parts (p : Path) : List String := partsOf p.isAbsolute p.names

variable {names : List String} {last : String} {suffix : List Char}

theorem partsOf_concat (absolute : Bool) (hlast : last ≠ ".") :
    partsOf absolute (names ++ [last]) = partsOf absolute names ++ [last] := by
  have hkept : [last].filter (· ≠ ".") = [last] := by simp [hlast]
  unfold partsOf
  by_cases habsolute : absolute = true
  · rw [if_pos habsolute, if_pos habsolute, List.filter_append, hkept, List.cons_append]
  · rw [if_neg habsolute, if_neg habsolute]
    cases names with
    | nil => rfl
    | cons name rest =>
      rw [List.cons_append, List.take_succ_cons, List.drop_succ_cons, List.take_succ_cons,
        List.drop_succ_cons, List.drop_zero, List.drop_zero, List.filter_append, hkept,
        List.take_zero, List.take_zero, List.append_assoc]

theorem parts_join (p : Path) {name : String} (hname : PlainName name) :
    (p.join name).parts = p.parts ++ [name] := by
  unfold parts
  rw [names_join p hname, isAbsolute_join p hname.head?_ne]
  exact partsOf_concat _ hname.2.2.1

theorem parts_joinAll (p : Path) (h : ∀ name ∈ names, PlainName name) :
    (p.joinAll names).parts = p.parts ++ names := by
  induction names generalizing p with
  | nil => exact (List.append_nil _).symm
  | cons name rest ih =>
    rw [List.forall_mem_cons] at h
    rw [← List.singleton_append, ← List.append_assoc, ← parts_join p h.1]
    exact ih (p.join name) h.2

/-! ## The end of a path -/

theorem suffix_append (stem ending : String) : ending.toList <:+ (stem ++ ending).toList := by
  rw [String.toList_append]
  exact List.suffix_append _ _

theorem suffix_join (p : Path) (name : String) : name.toList <:+ (p.join name).text.toList := by
  unfold join
  split
  · exact List.suffix_rfl
  · split
    · exact suffix_append _ _
    · exact suffix_append _ _

theorem exists_splitSlashes_append (cs : List Char) (hsuffix : '/' ∉ suffix) :
    ∃ above last, splitSlashes (cs ++ suffix) = above ++ [last ++ suffix] := by
  induction cs with
  | nil => exact ⟨[], [], splitSlashes_plain hsuffix⟩
  | cons c rest ih =>
    obtain ⟨above, last, hsplit⟩ := ih
    rw [List.cons_append, splitSlashes, hsplit]
    by_cases hc : c = '/'
    · exact ⟨[] :: above, last, if_pos hc⟩
    · rw [if_neg hc]
      cases above with
      | nil => exact ⟨[], c :: last, rfl⟩
      | cons piece above => exact ⟨(c :: piece) :: above, last, rfl⟩

/-- What a path ends in, its last part ends in too. -/
theorem exists_last_part {p : Path} (h : suffix <:+ p.text.toList) (hslash : '/' ∉ suffix)
    (hlong : 1 < suffix.length) : ∃ last ∈ p.parts.getLast?, suffix <:+ last.toList := by
  obtain ⟨stem, htext⟩ := h
  obtain ⟨above, last, hsplit⟩ := exists_splitSlashes_append stem hslash
  have hlength : 1 < (last ++ suffix).length := by
    rw [List.length_append]
    omega
  have hnames : p.names =
      ((above.filter fun piece => !piece.isEmpty).map String.ofList) ++
        [String.ofList (last ++ suffix)] := by
    have hkept : [last ++ suffix].filter (fun piece => !piece.isEmpty) = [last ++ suffix] := by
      refine List.filter_eq_self.mpr ?_
      intro piece hpiece
      rw [List.mem_singleton] at hpiece
      rw [hpiece, Bool.not_eq_true', List.isEmpty_eq_false_iff, ← List.length_pos_iff]
      omega
    unfold names
    rw [← htext, hsplit, List.filter_append, hkept, List.map_append]
    rfl
  have hdot : String.ofList (last ++ suffix) ≠ "." := by
    intro hdot
    rw [← String.toList_inj, String.toList_ofList] at hdot
    rw [hdot] at hlength
    exact absurd hlength (by decide)
  refine ⟨String.ofList (last ++ suffix), ?_, ?_⟩
  · unfold parts
    rw [hnames, partsOf_concat _ hdot, Option.mem_def, List.getLast?_concat]
  · rw [String.toList_ofList]
    exact List.suffix_append _ _

end BenchCharts.Files.Path

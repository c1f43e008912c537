import BenchCharts.Proofs.Config.RoundTrip
import BenchCharts.Proofs.Files.Joining
import BenchCharts.Proofs.Traversal

/-!
Where a value is loaded from. A path that is given decides by its extension and by the text that it
leads to. Without one there are four files beside the base to look for: none leaves it to the
caller, a single one is loaded as if its path was given, and more are an error, whatever is in them.
-/
namespace BenchCharts

/-! ## Names with an extension -/

namespace Files.Path

variable {p : Path} {name extension : String}

theorem plainName_of_fileName? (h : p.fileName? = some name) : PlainName name := by
  unfold fileName? at h
  dsimp only at h
  split at h
  · contradiction
  · next hplain =>
    obtain rfl := Option.some.inj h
    simp only [not_or] at hplain
    refine ⟨?_, ?_, ?_, ?_⟩
    · simpa [← String.toList_inj] using hplain.1
    · rw [String.toList_ofList, List.mem_reverse]
      intro hslash
      simpa [notSlash] using List.mem_takeWhile_imp hslash
    · simpa [← String.toList_inj] using hplain.2.1
    · simpa [← String.toList_inj] using hplain.2.2

theorem fileName?_join (p : Path) (hname : PlainName name) :
    (p.join name).fileName? = some name := by
  have hlast : (p.join name).fromEnd.takeWhile notSlash = name.toList.reverse := by
    have hkept : ∀ c ∈ name.toList.reverse, notSlash c = true := by
      intro c hc
      rw [List.mem_reverse] at hc
      exact bne_iff_ne.mpr fun hslash => hname.2.1 (hslash ▸ hc)
    rcases toList_join p hname.head?_ne with ⟨-, htext⟩ | ⟨stem, -, -, htext⟩
    · have htrim := trimEnd_plain hname []
      rw [List.append_nil] at htrim
      rw [fromEnd, htext, htrim, List.takeWhile_eq_self_iff]
      exact hkept
    · rw [fromEnd, htext, List.reverse_append, List.reverse_cons, List.append_assoc,
        trimEnd_plain hname, List.takeWhile_append_of_pos hkept]
      simp [notSlash]
  have hplain : ¬(name.toList = [] ∨ name.toList = ['.'] ∨ name.toList = ['.', '.']) := by
    obtain ⟨hempty, -, hdot, hdots⟩ := hname
    simp only [ne_eq, ← String.toList_inj] at hempty hdot hdots
    exact not_or.mpr ⟨hempty, not_or.mpr ⟨hdot, hdots⟩⟩
  unfold fileName?
  rw [hlast, List.reverse_reverse, if_neg hplain, String.ofList_toList]

/-- The last dot of a name is followed by its extension, wherever else the name has dots. -/
theorem extension?_of_fileName? (h : p.fileName? = some (name ++ "." ++ extension))
    (hname : name ≠ "") (hextension : '.' ∉ extension.toList) : p.extension? = some extension := by
  have hkept : ∀ c ∈ extension.toList.reverse, (c != '.') = true := by
    intro c hc
    rw [List.mem_reverse] at hc
    exact bne_iff_ne.mpr fun hdot => hextension (hdot ▸ hc)
  have hreverse : (name ++ "." ++ extension).toList.reverse =
      extension.toList.reverse ++ '.' :: name.toList.reverse := by
    simp
  rw [extension?, h, Option.bind_some, hreverse]
  dsimp only
  rw [List.dropWhile_append_of_pos hkept, List.takeWhile_append_of_pos hkept]
  cases hrest : name.toList.reverse with
  | nil => simp [hname] at hrest
  | cons c rest => simp

/-- A name beside the last one of a path. -/
theorem fileName?_withFileName (p : Path) (hname : PlainName name) :
    (p.withFileName name).fileName? = some name := by
  unfold withFileName
  split <;> exact fileName?_join _ hname

theorem extension?_withFileName (h : p.fileName? = some name) (hdot : '.' ∉ extension.toList)
    (hslash : '/' ∉ extension.toList) (hlong : 1 < extension.toList.length) :
    (p.withFileName (name ++ "." ++ extension)).extension? = some extension := by
  have hplain := plainName_of_fileName? h
  have hadded : PlainName (name ++ "." ++ extension) := by
    rw [String.append_assoc]
    apply plainName_extension hplain.2.1
    · simpa using hslash
    · simpa using Nat.succ_le_of_lt hlong
  exact extension?_of_fileName? (fileName?_withFileName p hadded) hplain.1 hdot

end Files.Path

namespace Config

open Files (Path Tree)

/-- The known extensions in the order in which they are tried. -/
def knownExtensions : List String := FileFormat.extensions.map (·.1)

/-- The same error about another path. -/
def FileError.about (path : Path) : FileError → FileError
  | noExtension _ => noExtension path
  | unknownExtension extension _ => unknownExtension extension path
  | unreadable _ => unreadable path
  | undecodable _ cause => undecodable path cause
  | ambiguous paths => ambiguous paths
  | noFileName base => noFileName base
  | unwritable _ => unwritable path

/-- How a value is found if its files are to be beside a base. -/
structure Codec.Discovers {α : Type} (codec : Codec α) (t : Tree) (base : Path)
    (beside : String → Path) : Prop where
  /-- Where a path is given, the trees and the bases may differ in anything else. -/
  given : ∀ (u : Tree) (other : Option Path) (path : Path),
    (u.read path).toOption = (t.read path).toOption →
      codec.load u other (some path) = codec.load t (some base) (some path)
  /-- Even the path itself matters only to what an error says. -/
  given_alike : ∀ (u : Tree) (other : Option Path) (path path' : Path),
    path'.extension? = path.extension? → (u.read path').toOption = (t.read path).toOption →
      codec.load u other (some path') =
        (codec.load t (some base) (some path)).mapError (·.about path')
  given_ne_nowhere : ∀ path tried, codec.load t (some base) (some path) ≠ .ok (.nowhere tried)
  nowhere_iff : ∀ tried, codec.load t (some base) none = .ok (.nowhere tried) ↔
    (∀ extension ∈ knownExtensions, t.isPresent (beside extension) = false) ∧
      tried = triedBeside base
  single : ∀ extension ∈ knownExtensions, t.isPresent (beside extension) = true →
    (∀ other ∈ knownExtensions, t.isPresent (beside other) = true → other = extension) →
      ∀ other, codec.load t (some base) none = codec.load t other (some (beside extension))
  several : ∀ one ∈ knownExtensions, ∀ other ∈ knownExtensions, one ≠ other →
    t.isPresent (beside one) = true → t.isPresent (beside other) = true →
      codec.load t (some base) none =
        .error (.ambiguous ((knownExtensions.map beside).filter t.isPresent))

/-! ## A path that is given -/

namespace Codec

variable {α : Type} {codec : Codec α} {t u : Tree}

theorem loadAs_congr {format : FileFormat} {path path' : Path}
    (hread : (u.read path').toOption = (t.read path).toOption) :
    codec.loadAs u format path' = (codec.loadAs t format path).mapError (·.about path') := by
  unfold loadAs
  cases ht : t.read path with
  | error e =>
    cases hu : u.read path' with
    | error e' => rfl
    | ok text => simp [ht, hu, Except.toOption] at hread
  | ok text =>
    cases hu : u.read path' with
    | error e' => simp [ht, hu, Except.toOption] at hread
    | ok text' =>
      obtain rfl : text' = text := by simpa [ht, hu, Except.toOption] using hread
      dsimp only
      cases codec.decode format text' <;> rfl

theorem load_path_congr {path path' : Path} (hextension : path'.extension? = path.extension?)
    (hread : (u.read path').toOption = (t.read path).toOption) (base other : Option Path) :
    codec.load u other (some path') =
      (codec.load t base (some path)).mapError (·.about path') := by
  rw [load_path, load_path, loadFrom, loadFrom, FileFormat.ofPath, FileFormat.ofPath, hextension]
  cases path.extension? with
  | none => rfl
  | some extension =>
    dsimp only
    cases FileFormat.extensions.lookup extension with
    | none => rfl
    | some format =>
      change (codec.loadAs u format path').map _ = ((codec.loadAs t format path).map _).mapError _
      rw [loadAs_congr hread]
      cases codec.loadAs t format path <;> rfl

theorem load_path_ne_nowhere (base : Option Path) (path : Path) (tried : String) :
    codec.load t base (some path) ≠ .ok (.nowhere tried) := by
  rw [load_path]
  cases codec.loadFrom t path <;> simp [Except.map]

end Codec

/-! ## Files beside a base -/

section
variable {t : Tree} {base : Path} {name : String}

/-- The extensions under which there is a file beside a base, with their formats. -/
def foundBeside (t : Tree) (base : Path) (name : String) : List (String × FileFormat) :=
  FileFormat.extensions.filter fun entry => t.isPresent (base.withFileName (name ++ "." ++ entry.1))

theorem candidates_eq (hname : base.fileName? = some name) :
    candidates t base = .ok ((foundBeside t base name).map fun entry =>
      (base.withFileName (name ++ "." ++ entry.1), entry.2)) := by
  have hwith (extension : String) : withExtension base extension =
      .ok (base.withFileName (name ++ "." ++ extension)) := by
    simp only [withExtension, hname]
  rw [candidates, mapM_of_forall_ok (k := fun entry =>
    (base.withFileName (name ++ "." ++ entry.1), entry.2)), foundBeside]
  · exact congrArg Except.ok List.filter_map
  · intro entry _
    simp [hwith, bind, Except.bind, pure, Except.pure]

/-- The extension of a file that is looked for leads back to the format that it is looked for in. -/
theorem ofPath_beside (hname : base.fileName? = some name) {entry : String × FileFormat}
    (hknown : entry ∈ FileFormat.extensions) :
    FileFormat.ofPath (base.withFileName (name ++ "." ++ entry.1)) = .ok entry.2 := by
  have hshape : ∀ entry ∈ FileFormat.extensions, '.' ∉ entry.1.toList ∧ '/' ∉ entry.1.toList ∧
      1 < entry.1.toList.length := by decide
  obtain ⟨hdot, hslash, hlong⟩ := hshape entry hknown
  exact ofPath_of_extension (Path.extension?_withFileName hname hdot hslash hlong) hknown

theorem mem_foundBeside {entry : String × FileFormat} :
    entry ∈ foundBeside t base name ↔ entry ∈ FileFormat.extensions ∧
      t.isPresent (base.withFileName (name ++ "." ++ entry.1)) = true := List.mem_filter

theorem foundBeside_eq_nil_iff : foundBeside t base name = [] ↔
    ∀ extension ∈ knownExtensions,
      t.isPresent (base.withFileName (name ++ "." ++ extension)) = false := by
  simp [foundBeside, knownExtensions]

theorem nodup_knownExtensions : knownExtensions.Nodup := by decide

theorem nodup_foundBeside (t : Tree) (base : Path) (name : String) :
    (foundBeside t base name).Nodup :=
  nodup_knownExtensions.of_map.filter _

/-- A file that is the only one is found once. -/
theorem foundBeside_eq_singleton {entry : String × FileFormat}
    (hfound : entry ∈ foundBeside t base name)
    (honly : ∀ other ∈ foundBeside t base name, other.1 = entry.1) :
    foundBeside t base name = [entry] := by
  rw [← List.perm_singleton,
    List.perm_ext_iff_of_nodup (nodup_foundBeside t base name) (List.nodup_singleton entry)]
  intro other
  rw [List.mem_singleton]
  constructor
  · intro hother
    exact List.inj_on_of_nodup_map nodup_knownExtensions (mem_foundBeside.mp hother).1
      (mem_foundBeside.mp hfound).1 (honly other hother)
  · rintro rfl
    exact hfound

theorem foundBeside_cases (t : Tree) (base : Path) (name : String) :
    foundBeside t base name = [] ∨ (∃ entry, foundBeside t base name = [entry]) ∨
      ∃ one other, one ≠ other ∧ one ∈ foundBeside t base name ∧
        other ∈ foundBeside t base name := by
  cases hfound : foundBeside t base name with
  | nil => exact .inl rfl
  | cons one rest =>
    cases rest with
    | nil => exact .inr (.inl ⟨one, rfl⟩)
    | cons other rest =>
      have hnodup := hfound ▸ nodup_foundBeside t base name
      have hne : one ≠ other := by
        rintro rfl
        simp at hnodup
      exact .inr (.inr ⟨one, other, hne, by simp, by simp⟩)

variable {α : Type} (codec : Codec α) (hname : base.fileName? = some name)

include hname

theorem load_of_found_none (hfound : foundBeside t base name = []) :
    codec.load t (some base) none = .ok (.nowhere (triedBeside base)) := by
  simp only [Codec.load, candidates_eq hname, hfound]
  rfl

theorem load_of_found_one {entry : String × FileFormat} (hfound : foundBeside t base name = [entry])
    (other : Option Path) : codec.load t (some base) none =
      codec.load t other (some (base.withFileName (name ++ "." ++ entry.1))) := by
  have hknown := (mem_foundBeside.mp (hfound ▸ List.mem_singleton_self entry)).1
  rw [Codec.load_path, Codec.loadFrom, ofPath_beside hname hknown]
  simp only [Codec.load, candidates_eq hname, hfound, List.map_cons, List.map_nil, bind,
    Except.bind]
  cases codec.loadAs t entry.2 (base.withFileName (name ++ "." ++ entry.1)) <;> rfl

theorem load_of_found_several {one other : String × FileFormat} (hne : one ≠ other)
    (hone : one ∈ foundBeside t base name) (hother : other ∈ foundBeside t base name) :
    codec.load t (some base) none = .error (.ambiguous ((foundBeside t base name).map fun entry =>
      base.withFileName (name ++ "." ++ entry.1))) := by
  simp only [Codec.load, candidates_eq hname]
  cases hfound : foundBeside t base name with
  | nil => simp [hfound] at hone
  | cons first rest =>
    cases rest with
    | nil =>
      rw [hfound, List.mem_singleton] at hone hother
      exact absurd (hone.trans hother.symm) hne
    | cons second rest => simp [bind, Except.bind]

end

/-- With a path, only the text that it leads to is read. Without one, the caller decides if there is
no file beside the base; a single file is loaded by the format that its extension names; and more
files are an error. -/
theorem Codec.discovers_beside {α : Type} (codec : Codec α) (t : Tree) {base : Path}
    {name : String} (hname : base.fileName? = some name) :
    codec.Discovers t base fun extension => base.withFileName (name ++ "." ++ extension) where
  given u other path hread := by
    calc codec.load u other (some path)
        = (codec.load t (some base) (some path)).mapError (·.about path) :=
          Codec.load_path_congr rfl hread (some base) other
      _ = codec.load t (some base) (some path) :=
          (Codec.load_path_congr rfl rfl (some base) (some base)).symm
  given_alike u other path path' hextension hread :=
    Codec.load_path_congr hextension hread (some base) other
  given_ne_nowhere := Codec.load_path_ne_nowhere (some base)
  nowhere_iff tried := by
    rw [← foundBeside_eq_nil_iff]
    rcases foundBeside_cases t base name with
      hnone | ⟨entry, hone⟩ | ⟨one, other, hne, hone, hother⟩
    · simp [load_of_found_none codec hname hnone, hnone, eq_comm]
    · rw [load_of_found_one codec hname hone none]
      simp [hone, Codec.load_path_ne_nowhere]
    · simp [load_of_found_several codec hname hne hone hother, List.ne_nil_of_mem hone]
  single extension hextension hpresent honly other := by
    obtain ⟨entry, hknown, rfl⟩ := List.mem_map.mp hextension
    have hfound : foundBeside t base name = [entry] := by
      refine foundBeside_eq_singleton (mem_foundBeside.mpr ⟨hknown, hpresent⟩) ?_
      intro other hother
      obtain ⟨hknown', hpresent'⟩ := mem_foundBeside.mp hother
      exact honly other.1 (List.mem_map_of_mem hknown') hpresent'
    exact load_of_found_one codec hname hfound other
  several one hone other hother hne hpresent hpresent' := by
    obtain ⟨entry, hknown, rfl⟩ := List.mem_map.mp hone
    obtain ⟨entry', hknown', rfl⟩ := List.mem_map.mp hother
    have hentries : entry ≠ entry' := fun hsame => hne (congrArg Prod.fst hsame)
    have hfound := load_of_found_several codec hname hentries
      (mem_foundBeside.mpr ⟨hknown, hpresent⟩) (mem_foundBeside.mpr ⟨hknown', hpresent'⟩)
    rw [hfound, foundBeside, knownExtensions, List.map_map, List.filter_map]
    rfl

/-- The only file beside a base whose name starts with a dot and has more of them. Its text is
broken, but it is loaded nevertheless. -/
theorem Codec.discovers_broken_file :
    let base : Path := ⟨"results/.bench.v2/"⟩
    let file : Path := ⟨"results/.bench.v2.json"⟩
    let t := Tree.empty.plant ["results", ".bench.v2.json"] (.file (.text "\x7b"))
    base.fileName? = some ".bench.v2" ∧
      figuresCodec.load t (some base) none = figuresCodec.load t none (some file) ∧
      ∀ tried, figuresCodec.load t (some base) none ≠ .ok (.nowhere tried) := by
  intro base file t
  have hname : base.fileName? = some ".bench.v2" := by decide +kernel
  have hdiscovers := Codec.discovers_beside figuresCodec t hname
  have hfile : base.withFileName (".bench.v2" ++ "." ++ "json") = file := by decide +kernel
  have hpresent : t.isPresent file = true := by decide +kernel
  have honly : ∀ other ∈ knownExtensions,
      t.isPresent (base.withFileName (".bench.v2" ++ "." ++ other)) = true → other = "json" := by
    decide +kernel
  have hsingle := hdiscovers.single "json" (by decide) (hfile ▸ hpresent) honly none
  rw [hfile] at hsingle
  refine ⟨hname, hsingle, ?_⟩
  intro tried
  rw [hsingle]
  exact Codec.load_path_ne_nowhere none file tried

end Config

end BenchCharts

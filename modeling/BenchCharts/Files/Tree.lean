import BenchCharts.Files.Path

/-!
A tree of files and directories as a value. Reading takes a tree and a path to the text found
there, or to the reason why there is none; writing gives a new tree, and changes nothing where it
fails. Every location keeps one entry, and the working directory and the root are always there.
-/
namespace BenchCharts.Files

/-- The names from the working directory down, or from the root if the first one is a slash. -/
abbrev Location := List String

inductive Content
  | text (s : String)
  | zeros (count : Nat)
  /-- Bytes that are no text. -/
  | binary (size : Nat)
  deriving DecidableEq, Repr, Inhabited

namespace Content

def size : Content → Nat
  | text s => s.utf8ByteSize
  | zeros count => count
  | binary size => size

def text? : Content → Option String
  | text s => some s
  | zeros count => some (String.ofList (List.replicate count '\x00'))
  | binary _ => none

end Content

inductive Entry
  | file (content : Content)
  | directory
  deriving DecidableEq, Repr, Inhabited

inductive FileError
  | absent
  | notDirectory
  | isDirectory
  | notText
  | invalidName
  deriving DecidableEq, Repr

/-- The working directory, the root and the directories above them are there without being
listed. -/
def IsGiven (place : Location) : Prop := place = [] ∨ place = ["/"] ∨ place.getLast? = some ".."

instance (place : Location) : Decidable (IsGiven place) :=
  inferInstanceAs (Decidable (_ ∨ _ ∨ _))

/-- What a listing says about a location. -/
def entryAt (entries : List (Location × Entry)) (place : Location) : Option Entry :=
  if IsGiven place then some .directory else entries.lookup place

def putInto (place : Location) (entry : Entry) :
    List (Location × Entry) → List (Location × Entry)
  | [] => [(place, entry)]
  | (p, e) :: rest =>
      if p = place then (place, entry) :: rest else (p, e) :: putInto place entry rest

/-- No location is listed twice, and each lies in a directory. -/
structure Rooted (entries : List (Location × Entry)) : Prop where
  unique : (entries.map (·.1)).Nodup
  parent : ∀ place ∈ entries.map (·.1), entryAt entries place.dropLast = some .directory
  listed : ∀ place ∈ entries.map (·.1), ¬ IsGiven place

private theorem lookup_cons_if (place other : Location) (e : Entry)
    (rest : List (Location × Entry)) :
    ((place, e) :: rest).lookup other = if other = place then some e else rest.lookup other := by
  by_cases h : other = place
  · simp [h]
  · have hb : (other == place) = false := by simpa using h
    simp [List.lookup_cons, hb, h]

theorem lookup_putInto (place other : Location) (e : Entry) (entries : List (Location × Entry)) :
    (putInto place e entries).lookup other =
      if other = place then some e else entries.lookup other := by
  induction entries with
  | nil => exact lookup_cons_if place other e []
  | cons head rest ih =>
    obtain ⟨p, old⟩ := head
    unfold putInto
    split
    · next heq =>
      subst heq
      rw [lookup_cons_if, lookup_cons_if]
      split <;> rfl
    · next hne =>
      rw [lookup_cons_if, lookup_cons_if, ih]
      by_cases h : other = p
      · have hp : ¬ p = place := hne
        simp [h, hp]
      · simp [h]

theorem entryAt_putInto (place other : Location) (e : Entry) (entries : List (Location × Entry))
    (hgiven : ¬ IsGiven place) :
    entryAt (putInto place e entries) other =
      if other = place then some e else entryAt entries other := by
  unfold entryAt
  rw [lookup_putInto]
  by_cases h : other = place
  · subst h
    simp [hgiven]
  · simp [h]

/-- A location that is listed keeps its position, and a new one comes last. -/
theorem keys_putInto (place : Location) (e : Entry) (entries : List (Location × Entry)) :
    (putInto place e entries).map (·.1) =
      if place ∈ entries.map (·.1) then entries.map (·.1) else entries.map (·.1) ++ [place] := by
  induction entries with
  | nil => rfl
  | cons head rest ih =>
    obtain ⟨p, old⟩ := head
    unfold putInto
    split
    · next heq =>
      subst heq
      simp
    · next hne =>
      have hne' : ¬ place = p := fun h => hne h.symm
      simp only [List.map_cons, ih, List.mem_cons, hne', false_or]
      split <;> simp

theorem mem_keys_putInto {place other : Location} {e : Entry} {entries : List (Location × Entry)}
    (h : other ∈ (putInto place e entries).map (·.1)) :
    other = place ∨ other ∈ entries.map (·.1) := by
  rw [keys_putInto] at h
  split at h
  · exact Or.inr h
  · rcases List.mem_append.mp h with hold | hnew
    · exact Or.inr hold
    · exact Or.inl (List.mem_singleton.mp hnew)

/-- A listing stays rooted if the new location lies in a directory and replaces none. -/
theorem Rooted.putInto {entries : List (Location × Entry)} (h : Rooted entries)
    {place : Location} (e : Entry) (hparent : entryAt entries place.dropLast = some .directory)
    (hfree : entryAt entries place ≠ some .directory) : Rooted (putInto place e entries) := by
  have hgiven : ¬ IsGiven place := fun hg => hfree (by simp [entryAt, hg])
  -- A directory above a listed location is not the one that is replaced.
  have keep : ∀ above, entryAt entries above = some .directory →
      entryAt (Files.putInto place e entries) above = some .directory := by
    intro above habove
    have hne : above ≠ place := by
      rintro rfl
      exact hfree habove
    rw [entryAt_putInto place above e entries hgiven, if_neg hne]
    exact habove
  constructor
  case unique =>
    rw [keys_putInto]
    split
    · exact h.unique
    · next hnew =>
      rw [List.nodup_append]
      refine ⟨h.unique, by simp, ?_⟩
      intro a ha b hb
      rw [List.mem_singleton.mp hb]
      rintro rfl
      exact hnew ha
  case parent =>
    intro other hother
    rcases mem_keys_putInto hother with rfl | hold
    · exact keep _ hparent
    · exact keep _ (h.parent other hold)
  case listed =>
    intro other hother
    rcases mem_keys_putInto hother with rfl | hold
    · exact hgiven
    · exact h.listed other hold

/-- A listing stays rooted without a location that is no directory. -/
theorem Rooted.without {entries : List (Location × Entry)} (h : Rooted entries)
    {place : Location} (hfree : entryAt entries place ≠ some .directory) :
    Rooted (entries.filter fun p => p.1 != place) := by
  have sub : ((entries.filter fun p => p.1 != place).map (·.1)).Sublist (entries.map (·.1)) :=
    List.Sublist.map _ List.filter_sublist
  have hlookup : ∀ above, above ≠ place →
      (entries.filter fun p => p.1 != place).lookup above = entries.lookup above := by
    intro above hne
    clear h hfree sub
    induction entries with
    | nil => rfl
    | cons head rest ih =>
      obtain ⟨p, e⟩ := head
      by_cases hp : p = place
      · have hap : ¬ above = p := by rw [hp]; exact hne
        simp [hp, lookup_cons_if, hne, ih]
      · simp [hp, lookup_cons_if, ih]
  constructor
  case unique => exact h.unique.sublist sub
  case parent =>
    intro other hother
    have hdir := h.parent other (sub.subset hother)
    have hne : other.dropLast ≠ place := by
      intro heq
      rw [heq] at hdir
      exact hfree hdir
    simpa only [entryAt, hlookup _ hne] using hdir
  case listed => exact fun other hother => h.listed other (sub.subset hother)

structure Tree where
  entries : List (Location × Entry)
  rooted : Rooted entries
  deriving Repr

namespace Tree

def empty : Tree := ⟨[], by simp, by simp, by simp⟩

instance : Inhabited Tree := ⟨empty⟩

def at? (t : Tree) (place : Location) : Option Entry := entryAt t.entries place

/-- Whether an entry can be put at a location: in a directory, and not in place of one. -/
def Accepts (t : Tree) (place : Location) : Prop :=
  t.at? place.dropLast = some .directory ∧ t.at? place ≠ some .directory

instance (t : Tree) (place : Location) : Decidable (t.Accepts place) :=
  inferInstanceAs (Decidable (_ ∧ _))

/-- Adds or replaces an entry where one can be put, and changes nothing elsewhere. -/
def put (t : Tree) (place : Location) (entry : Entry) : Tree :=
  if h : t.Accepts place then ⟨putInto place entry t.entries, t.rooted.putInto entry h.1 h.2⟩
  else t

/-- Takes a file away. Directories stay. -/
def remove (t : Tree) (place : Location) : Tree :=
  if h : t.at? place = some .directory then t
  else ⟨t.entries.filter fun p => p.1 != place, t.rooted.without h⟩

/-- No name is longer than 255 bytes. -/
def nameLimit : Nat := 255

/-- No path is longer than 4095 bytes. -/
def pathLimit : Nat := 4095

/-- Each step must start from a directory; only the last one may lead to nothing. -/
def walk (t : Tree) (place : Location) : List String → Except FileError Location
  | [] => .ok place
  | name :: rest =>
      match t.at? place with
      | none => .error .absent
      | some (.file _) => .error .notDirectory
      | some .directory =>
          if name = "." then walk t place rest
          else if name = ".." then
            walk t (if place = ["/"] then place else if place = [] ∨ place.getLast? = some ".."
              then place ++ [".."] else place.dropLast) rest
          else if nameLimit < name.utf8ByteSize then .error .invalidName
          else walk t (place ++ [name]) rest

def locate (t : Tree) (p : Path) : Except FileError Location :=
  if p.text.isEmpty then .error .absent
  else if p.text.toList.contains '\x00' ∨ pathLimit < p.text.utf8ByteSize then .error .invalidName
  else t.walk (if p.isAbsolute then ["/"] else []) p.steps

def entry (t : Tree) (p : Path) : Except FileError Entry :=
  match t.locate p with
  | .error e => .error e
  | .ok place =>
      match t.at? place with
      | none => .error .absent
      | some e => .ok e

def isPresent (t : Tree) (p : Path) : Bool := (t.entry p).toOption.isSome

def read (t : Tree) (p : Path) : Except FileError String :=
  match t.entry p with
  | .error e => .error e
  | .ok .directory => .error .isDirectory
  | .ok (.file content) =>
      match content.text? with
      | none => .error .notText
      | some s => .ok s

/-- Replaces or adds one file; its directory must be there. -/
def write (t : Tree) (p : Path) (s : String) : Except FileError Tree :=
  match t.locate p with
  | .error e => .error e
  | .ok place =>
      match t.at? place with
      | some .directory => .error .isDirectory
      | _ => .ok (t.put place (.file (.text s)))

/-- Makes the directories along the steps that are not there yet. What was made before a step
failed stays. -/
def makeAlong (t : Tree) (start : Location) (done : List String) :
    List String → Tree × Except FileError Unit
  | [] => (t, .ok ())
  | name :: rest =>
      let steps := done ++ [name]
      match t.walk start steps with
      | .error e => (t, .error e)
      | .ok place =>
          match t.at? place with
          | some .directory => makeAlong t start steps rest
          | some (.file _) => (t, .error .notDirectory)
          | none => makeAlong (t.put place .directory) start steps rest

def makeDirectories (t : Tree) (p : Path) : Tree × Except FileError Unit :=
  if p.text.isEmpty then (t, .ok ())
  else if p.text.toList.contains '\x00' ∨ pathLimit < p.text.utf8ByteSize then
    (t, .error .invalidName)
  else t.makeAlong (if p.isAbsolute then ["/"] else []) [] p.steps

/-- Adds a file together with the directories above it. -/
def plant (t : Tree) (place : Location) (e : Entry) : Tree :=
  let above := (List.range place.length).map fun n => place.take n
  let t := above.foldl (fun t dir => if (t.at? dir).isNone then t.put dir .directory else t) t
  t.put place e

/-- The names in a directory, each with its file's size; a directory has none. -/
def list (t : Tree) (p : Path) : Except FileError (List (String × Option Nat)) :=
  match t.locate p with
  | .error e => .error e
  | .ok place =>
      match t.at? place with
      | none => .error .absent
      | some (.file _) => .error .notDirectory
      | some .directory =>
          .ok (t.entries.filterMap fun (below, e) =>
            match below.getLast? with
            | none => none
            | some name =>
                if below.dropLast = place then
                  some (name, match e with
                    | .file content => some content.size
                    | .directory => none)
                else none)

/-- The locations of all files. -/
def files (t : Tree) : List Location :=
  t.entries.filterMap fun (place, e) =>
    match e with
    | .file _ => some place
    | .directory => none

theorem at?_put (t : Tree) (place other : Location) (e : Entry) (h : t.Accepts place) :
    (t.put place e).at? other = if other = place then some e else t.at? other := by
  have hgiven : ¬ IsGiven place := fun hg => h.2 (by simp [at?, entryAt, hg])
  rw [put, dif_pos h]
  exact entryAt_putInto place other e t.entries hgiven

theorem at?_put_self (t : Tree) (place : Location) (e : Entry) (h : t.Accepts place) :
    (t.put place e).at? place = some e := by
  rw [at?_put t place place e h, if_pos rfl]

theorem put_of_not_accepts (t : Tree) (place : Location) (e : Entry) (h : ¬ t.Accepts place) :
    t.put place e = t := dif_neg h

/-- Putting an entry changes what is found at its own location only. -/
theorem at?_put_of_ne (t : Tree) (place other : Location) (e : Entry) (h : other ≠ place) :
    (t.put place e).at? other = t.at? other := by
  by_cases haccepts : t.Accepts place
  · rw [at?_put t place other e haccepts, if_neg h]
  · rw [put_of_not_accepts t place e haccepts]

end Tree

end BenchCharts.Files

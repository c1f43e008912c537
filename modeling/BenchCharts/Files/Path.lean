/-!
Paths as texts. Names are joined by slashes and nothing is normalized: a joined name that starts
with a slash replaces everything before it. The last name of a path, its extension and the path
before it disregard trailing slashes and single dots.
-/
namespace BenchCharts.Files

structure Path where
  text : String
  deriving DecidableEq, Repr, Inhabited

namespace Path

instance : Coe String Path := ⟨Path.mk⟩

def isAbsolute (p : Path) : Bool := p.text.toList.head? = some '/'

/-- A slash is put in between unless the path is empty or ends in one. -/
def join (p : Path) (name : String) : Path :=
  if name.toList.head? = some '/' then ⟨name⟩
  else if p.text.toList.getLast?.all (· = '/') then ⟨p.text ++ name⟩
  else ⟨p.text ++ "/" ++ name⟩

/-- A path read from its end, without trailing slashes and dots that stand for nothing. The slash
of the root and a single dot at the start remain. -/
def trimEnd : List Char → List Char
  | ['/'] => ['/']
  | '/' :: rest => trimEnd rest
  | '.' :: '/' :: rest => trimEnd ('/' :: rest)
  | rest => rest

def fromEnd (p : Path) : List Char := trimEnd p.text.toList.reverse

def notSlash (c : Char) : Bool := c != '/'

def fileName? (p : Path) : Option String :=
  let name := (p.fromEnd.takeWhile notSlash).reverse
  if name = [] ∨ name = ['.'] ∨ name = ['.', '.'] then none else some (String.ofList name)

/-- What follows the last dot of the last name, unless that dot starts the name. -/
def extension? (p : Path) : Option String :=
  p.fileName?.bind fun name =>
    let reversed := name.toList.reverse
    match reversed.dropWhile (· != '.') with
    | _ :: _ :: _ => some (String.ofList (reversed.takeWhile (· != '.')).reverse)
    | _ => none

/-- The path before the last name; the root and the empty path have none. -/
def parent? (p : Path) : Option Path :=
  match p.fromEnd with
  | [] => none
  | ['/'] => none
  | reversed =>
      match reversed.dropWhile notSlash with
      | [] => some ⟨""⟩
      | rest => some ⟨String.ofList (trimEnd rest).reverse⟩

def withFileName (p : Path) (name : String) : Path :=
  if p.fileName?.isSome then (p.parent?.getD ⟨""⟩).join name else p.join name

/-- The pieces between slashes; a text without one is a single piece. -/
def splitSlashes : List Char → List (List Char)
  | [] => [[]]
  | c :: rest =>
      if c = '/' then [] :: splitSlashes rest
      else match splitSlashes rest with
        | [] => [[c]]
        | name :: names => (c :: name) :: names

/-- The steps from the working directory or the root. A slash at the end is a step that stays in
place, and so demands a directory. -/
def steps (p : Path) : List String :=
  let pieces := splitSlashes p.text.toList
  let names := (pieces.filter fun piece => !piece.isEmpty).map String.ofList
  if pieces.getLast? = some [] then names ++ ["."] else names

theorem join_absolute (p : Path) (name : String) (h : name.toList.head? = some '/') :
    p.join name = ⟨name⟩ := by
  simp [join, h]

theorem splitSlashes_ne_nil (cs : List Char) : splitSlashes cs ≠ [] := by
  cases cs with
  | nil => simp [splitSlashes]
  | cons c rest =>
    simp only [splitSlashes]
    split
    · simp
    · split <;> simp

end Path

end BenchCharts.Files

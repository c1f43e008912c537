import BenchCharts.Yaml.Characters

/-!
Scalars written as indented blocks of lines. A literal block keeps its line breaks and a folded one
joins lines that do not start with a blank. The header may give the indentation, which is otherwise
that of the first line with content, and says what becomes of the breaks at the end.
-/
namespace BenchCharts.Yaml

/-- What is kept of the breaks at the end of a block. -/
inductive Chomping
  | strip
  | clip
  | keep
  deriving DecidableEq, Repr

/-- What follows the indicator of a block: the indentation, if given, and the chomping. -/
structure BlockHeader where
  indent : Option Nat
  chomping : Chomping

def chomping? (c : Char) : Option Chomping :=
  if c = '+' then some .keep else if c = '-' then some .strip else none

/-- The two parts of a header in either order; an indentation of zero is an error. -/
def blockHeader (cs : List Char) : Option (BlockHeader × List Char) :=
  let digit? (cs : List Char) : Option (Option Nat × List Char) :=
    match cs with
    | c :: rest =>
        if c.isDigit then if c = '0' then none else some (some (c.toNat - '0'.toNat), rest)
        else some (none, cs)
    | [] => some (none, cs)
  let sign (cs : List Char) : Option Chomping × List Char :=
    match cs with
    | c :: rest => if (chomping? c).isSome then (chomping? c, rest) else (none, cs)
    | [] => (none, cs)
  match sign cs with
  | (some chomping, rest) => (digit? rest).map fun (indent, rest) => (⟨indent, chomping⟩, rest)
  | (none, cs) =>
      (digit? cs).map fun (indent, rest) =>
        if indent.isSome then
          let (chomping, rest) := sign rest
          (⟨indent, chomping.getD .clip⟩, rest)
        else (⟨indent, .clip⟩, rest)

/-- The rest of a header's line: blanks, a comment and the break. -/
def headerEnd (cs : List Char) : Option (List Char) :=
  let cs := cs.dropWhile isBlank
  let cs := match cs with
    | '#' :: rest => rest.dropWhile fun c => !isBreak c
    | cs => cs
  if atLineEnd cs then some (cs.drop 1) else none

/-- The deepest column that the blank lines at the start reach, together with the first line that
is not blank. A tab among these spaces is an error. -/
def deepestMargin (column deepest : Nat) : List Char → Option Nat
  | [] => some (max deepest column)
  | c :: rest =>
      if c = ' ' then deepestMargin (column + 1) deepest rest
      else if c = '\t' then none
      else if isBreak c then deepestMargin 0 (max deepest column) rest
      else some (max deepest column)

inductive BlockPlace
  | margin (column : Nat)
  | line

/-- A block read so far: its text, the break that ended the last line, and further breaks, all of
them latest first. -/
structure BlockScan where
  text : List Char
  lineBreak : List Char
  more : List Char
  /-- The last line started with a blank. -/
  blankStart : Bool

namespace BlockScan

def start : BlockScan := ⟨[], [], [], false⟩

/-- The breaks before a line that starts with `c`, and then that character. -/
def startLine (folded : Bool) (s : BlockScan) (c : Char) : BlockScan :=
  let joins := folded && s.lineBreak = ['\n'] && !s.blankStart && !isBlank c
  let between :=
    if joins then if s.more.isEmpty then [' '] else s.more
    else s.more ++ s.lineBreak
  ⟨c :: (between ++ s.text), [], [], isBlank c⟩

def finish (chomping : Chomping) (s : BlockScan) : List Char :=
  match chomping with
  | .strip => s.text.reverse
  | .clip => (s.lineBreak ++ s.text).reverse
  | .keep => (s.more ++ s.lineBreak ++ s.text).reverse

end BlockScan

def blockFrom (folded : Bool) (indent : Nat) (s : BlockScan) (place : BlockPlace) :
    List Char → Option (BlockScan × List Char)
  | [] => some (s, [])
  | c :: rest =>
      match place with
      | .margin column =>
          if column < indent && c = ' ' then blockFrom folded indent s (.margin (column + 1)) rest
          else if column < indent && c = '\t' then none
          else if isBreak c then
            blockFrom folded indent { s with more := c :: s.more } (.margin 0) rest
          else if column = indent then blockFrom folded indent (s.startLine folded c) .line rest
          else some (s, c :: rest)
      | .line =>
          if isBreak c then blockFrom folded indent { s with lineBreak := [c] } (.margin 0) rest
          else blockFrom folded indent { s with text := c :: s.text } .line rest

/-- The text of a block after its indicator. `parent` is the indentation of the collection around
it, which is -1 at the top. -/
def blockScalar (folded : Bool) (parent : Int) (cs : List Char) :
    Option (List Char × List Char) := do
  let (header, rest) ← blockHeader cs
  let rest ← headerEnd rest
  let indent ← match header.indent with
    | some n => some (parent.toNat + n)
    | none => (deepestMargin 0 0 rest).map fun deepest => max deepest (max (parent + 1).toNat 1)
  let (s, rest) ← blockFrom folded indent .start (.margin 0) rest
  return (s.finish header.chomping, rest)

end BenchCharts.Yaml

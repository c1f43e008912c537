import BenchCharts.Decimal.Numeral
import BenchCharts.Yaml.Characters

/-!
Scalars written within lines: plain ones, which end at an indicator, and those in single or double
quotes. A line break in such a scalar is folded into a space, or stands for one break less than
were written. Double quotes know escapes, one of which continues a line without a break.
-/
namespace BenchCharts.Yaml

/-- Blanks and breaks between two words, the latest first. -/
inductive Gap
  | blanks (skipped : List Char)
  /-- The first break, and those after it. -/
  | folded (first : Char) (more : List Char)
  /-- The line was continued by an escape; breaks after that. -/
  | continued (more : List Char)
  deriving DecidableEq, Repr

namespace Gap

def none : Gap := blanks []

def addBlank (c : Char) : Gap → Gap
  | blanks skipped => blanks (c :: skipped)
  | gap => gap

def addBreak (c : Char) : Gap → Gap
  | blanks _ => folded c []
  | folded first more => folded first (c :: more)
  | continued more => continued (c :: more)

def isBroken : Gap → Bool
  | blanks _ => false
  | _ => true

/-- What the gap stands for. -/
def text : Gap → List Char
  | blanks skipped => skipped.reverse
  | folded first more =>
      if first = '\n' then if more.isEmpty then [' '] else more.reverse
      else first :: more.reverse
  | continued more => more.reverse

theorem text_none : none.text = [] := rfl

end Gap

/-- A scalar read so far: its text, latest first, the open gap after it, and the column within a
line that the gap has reached. -/
structure ScalarScan where
  text : List Char
  gap : Gap
  column : Nat

namespace ScalarScan

def start : ScalarScan := ⟨[], .none, 0⟩

def addBlank (s : ScalarScan) (c : Char) : ScalarScan :=
  { s with gap := s.gap.addBlank c, column := s.column + 1 }

def addBreak (s : ScalarScan) (c : Char) : ScalarScan :=
  { s with gap := s.gap.addBreak c, column := 0 }

/-- The gap becomes part of the text. -/
def closeGap (s : ScalarScan) : ScalarScan :=
  { s with text := s.gap.text.reverse ++ s.text, gap := .none }

def push (s : ScalarScan) (c : Char) : ScalarScan :=
  { s with text := c :: s.text }

/-- Right after a break, at the start of a line that bounds the document. -/
def atDocumentMark (s : ScalarScan) (cs : List Char) : Bool :=
  s.gap.isBroken && s.column = 0 && Yaml.atDocumentMark cs

end ScalarScan

def isFlowIndicator (c : Char) : Bool := c = ',' || c = '[' || c = ']' || c = '\x7b' || c = '\x7d'

/-- A plain scalar with what follows it. -/
structure PlainScalar where
  text : List Char
  /-- It was followed by a line break. -/
  broken : Bool
  rest : List Char

/-- Reads the words of a plain scalar. A word that does not reach the indentation, a comment and
the bounds of a document end it; within a word, a colon before a blank does, and inside flow
collections their indicators do. -/
def plainFrom (inFlow : Bool) (indent : Nat) (s : ScalarScan) : List Char → Option PlainScalar
  | [] => some ⟨s.text.reverse, s.gap.isBroken, []⟩
  | c :: rest =>
      let stopped := some ⟨s.text.reverse, s.gap.isBroken, c :: rest⟩
      if isBlank c then
        if s.gap.isBroken && s.column < indent && c = '\t' then none
        else plainFrom inFlow indent (s.addBlank c) rest
      else if isBreak c then plainFrom inFlow indent (s.addBreak c) rest
      else if s.gap.isBroken && !inFlow && s.column < indent then stopped
      else if s.atDocumentMark (c :: rest) then stopped
      else if s.gap ≠ .none ∧ c = '#' then stopped
      else if inFlow && c = ':' && rest.head?.any (fun d => isFlowIndicator d || d = '?') then none
      else if c = ':' && atWordEnd rest then stopped
      else if inFlow && isFlowIndicator c then stopped
      else plainFrom inFlow indent (s.closeGap.push c) rest

def plain (inFlow : Bool) (indent : Nat) (cs : List Char) : Option PlainScalar :=
  plainFrom inFlow indent .start cs

/-- Text in single quotes up to its closing quote. A quote inside is written twice. -/
def singleQuotedFrom (s : ScalarScan) : List Char → Option (List Char × List Char)
  | [] => none
  | c :: rest =>
      if isBlank c then singleQuotedFrom (s.addBlank c) rest
      else if isBreak c then singleQuotedFrom (s.addBreak c) rest
      else if s.atDocumentMark (c :: rest) then none
      else if c = '\'' then
        match rest with
        | '\'' :: rest => singleQuotedFrom (s.closeGap.push '\'') rest
        | rest => some (s.closeGap.text.reverse, rest)
      else singleQuotedFrom (s.closeGap.push c) rest

def singleQuoted (cs : List Char) : Option (List Char × List Char) := singleQuotedFrom .start cs

/-- Escapes of one letter. -/
def shortEscapes : List (Char × Char) :=
  [('0', '\x00'), ('a', '\x07'), ('b', '\x08'), ('t', '\t'), ('\t', '\t'), ('n', '\n'),
    ('v', '\x0b'), ('f', '\x0c'), ('r', '\r'), ('e', '\x1b'), (' ', ' '), ('"', '"'), ('/', '/'),
    ('\\', '\\'), ('N', '\x85'), ('_', '\xa0'), ('L', '\u2028'), ('P', '\u2029')]

/-- How many hexadecimal digits follow a letter that starts an escaped code point. -/
def hexLength? (c : Char) : Option Nat := [('x', 2), ('u', 4), ('U', 8)].lookup c

/-- The place within an escape. -/
inductive EscapePlace
  | outside
  /-- After the backslash. -/
  | letter
  /-- Digits that are still to come, and the value of those before. -/
  | digits (left : Nat) (value : Nat)

/-- A character of a code point, unless the code point belongs to a surrogate. -/
def charOfCode? (n : Nat) : Option Char :=
  if h : n.isValidChar then some (Char.ofNatAux n h) else none

def doubleQuotedFrom (s : ScalarScan) (place : EscapePlace) :
    List Char → Option (List Char × List Char)
  | [] => none
  | c :: rest =>
      match place with
      | .outside =>
          if isBlank c then doubleQuotedFrom (s.addBlank c) .outside rest
          else if isBreak c then doubleQuotedFrom (s.addBreak c) .outside rest
          else if s.atDocumentMark (c :: rest) then none
          else if c = '"' then some (s.closeGap.text.reverse, rest)
          else if c = '\\' then doubleQuotedFrom s.closeGap .letter rest
          else doubleQuotedFrom (s.closeGap.push c) .outside rest
      | .letter =>
          if isBreak c then
            doubleQuotedFrom { s with gap := .continued [], column := 0 } .outside rest
          else match shortEscapes.lookup c with
            | some d => doubleQuotedFrom (s.push d) .outside rest
            | none =>
                match hexLength? c with
                | some left => doubleQuotedFrom s (.digits left 0) rest
                | none => none
      | .digits left value =>
          match Decimal.digitValue? 16 c with
          | none => none
          | some digit =>
              let value := value * 16 + digit
              if 1 < left then doubleQuotedFrom s (.digits (left - 1) value) rest
              else
                match charOfCode? value with
                | none => none
                | some d => doubleQuotedFrom (s.push d) .outside rest

/-- Text in double quotes up to its closing quote. -/
def doubleQuoted (cs : List Char) : Option (List Char × List Char) :=
  doubleQuotedFrom .start .outside cs

end BenchCharts.Yaml

import BenchCharts.Decimal.NumberForm
import BenchCharts.Format.Value
import BenchCharts.Yaml.Reading

/-!
Values written in blocks of lines. A text is written without quotes where that is read back as the
same text by every reader of the format; a text with line feeds becomes a literal block, others are
quoted. Lists that are the content of a member are not indented, and long or broken names get a
line of their own behind a question mark.
-/
namespace BenchCharts.Yaml

open Format (Value)

def numberForm : Decimal.NumberForm :=
  { least := -5, greatest := 15, wholePoint := true, plusSign := false, nan := ".nan",
    infinity := ".inf", negativeInfinity := "-.inf" }

/-- Ends a line in some text of the format. -/
def isAnyBreak (c : Char) : Bool := isBreak c || c = '\r' || c = '\x85'

/-- Written as it is; everything else needs an escape. -/
def isPrintable (c : Char) : Bool :=
  let n := c.toNat
  n = 0xA || (0x20 ≤ n && n ≤ 0x7E) || (0xA0 ≤ n && n ≤ 0xFFFD && n ≠ 0xFEFF) || 0x10000 ≤ n

def doubtfulWords : List String :=
  ["true", "false", "null", "~", "y", "yes", "n", "no", "on", "off", "nil", "nan"]

/-- Without quotes, some reader of the format could take the text for a value of another kind. -/
def isDoubtful (s : String) : Bool :=
  let cs := s.toList.map Char.toLower
  cs.isEmpty || cs.head?.any (fun c => c.isDigit || c = '-' || c = '.' || c = '+') ||
    doubtfulWords.contains (String.ofList cs)

/-- A character that starts no plain scalar, given what follows it. -/
def blocksStart (c : Char) (rest : List Char) : Bool :=
  ['#', ',', '[', ']', '\x7b', '\x7d', '&', '*', '!', '|', '>', '\'', '"', '%', '@',
    '\x60'].contains c || ((c = '?' || c = ':' || c = '-') && atWordEnd rest)

/-- A colon before a blank, or a number sign after one. -/
def hasIndicator (afterBlank : Bool) : List Char → Bool
  | [] => false
  | c :: rest =>
      (c = ':' && atWordEnd rest) || (afterBlank && c = '#') || hasIndicator (isBlank c) rest

/-- The text can be written without quotes. -/
def isPlain (cs : List Char) : Bool :=
  match cs with
  | [] => false
  | c :: rest =>
      !(blocksStart c rest || hasIndicator false rest || cs.take 3 = ['-', '-', '-'] ||
        cs.take 3 = ['.', '.', '.'] || c = ' ' || cs.getLast? = some ' ' ||
        cs.any fun d => isAnyBreak d || !isPrintable d)

/-- Two neighbours of a text in this order. -/
def hasPair (first second : Char → Bool) : List Char → Bool
  | c :: d :: rest => (first c && second d) || hasPair first second (d :: rest)
  | _ => false

def isSpace (c : Char) : Bool := c = ' '

/-- No character needs an escape, and no space stands before a break. -/
def isUnescaped (cs : List Char) : Bool :=
  cs.all isPrintable && !hasPair isSpace isAnyBreak cs

def isSingleQuotable (cs : List Char) : Bool := isUnescaped cs && !hasPair isAnyBreak isSpace cs

def isLiteral (cs : List Char) : Bool := isUnescaped cs && cs.getLast? != some ' '

/-- How a text is written; a name within a line is never a block. -/
def styleOf (inLine : Bool) (s : String) : ScalarStyle :=
  let cs := s.toList
  if cs.contains '\n' then if isLiteral cs && !inLine then .literal else .doubleQuoted
  else if isPlain cs && !isDoubtful s then .plain
  else if isSingleQuotable cs then .singleQuoted
  else .doubleQuoted

def hexDigits (width n : Nat) : List Char :=
  let digits := (Nat.toDigits 16 n).map Char.toUpper
  List.replicate (width - digits.length) '0' ++ digits

def escapeLetters : List (Char × Char) :=
  [('\x00', '0'), ('\x07', 'a'), ('\x08', 'b'), ('\t', 't'), ('\n', 'n'), ('\x0b', 'v'),
    ('\x0c', 'f'), ('\r', 'r'), ('\x1b', 'e'), ('"', '"'), ('\\', '\\'), ('\x85', 'N'),
    ('\xa0', '_'), ('\u2028', 'L'), ('\u2029', 'P')]

/-- A character between double quotes. -/
def escaped (c : Char) : List Char :=
  if isPrintable c && !isAnyBreak c && c ≠ '"' && c ≠ '\\' then [c]
  else match escapeLetters.lookup c with
    | some letter => ['\\', letter]
    | none =>
        let n := c.toNat
        if n ≤ 0xFF then '\\' :: 'x' :: hexDigits 2 n
        else if n ≤ 0xFFFF then '\\' :: 'u' :: hexDigits 4 n
        else '\\' :: 'U' :: hexDigits 8 n

def pad (indent : Nat) : List Char := List.replicate indent ' '

/-- Text in lines: after each break, a line with content starts with its indentation. -/
def indented (indent : Nat) (write : Char → List Char) (atStart : Bool) : List Char → List Char
  | [] => []
  | c :: rest =>
      if isAnyBreak c then c :: indented indent write true rest
      else (if atStart then pad indent else []) ++ write c ++ indented indent write false rest

def endsInBreak (cs : List Char) : Bool := cs.getLast?.any isAnyBreak

def singleQuotedChar (c : Char) : List Char := if c = '\'' then ['\'', '\''] else [c]

/-- The header of a literal block: its indentation if that is not plain from the first line, and
what becomes of the breaks at its end. -/
def literalHeader (cs : List Char) : List Char :=
  let hint := if cs.head?.any fun c => c = ' ' || isAnyBreak c then ['2'] else []
  let chomping :=
    match cs.reverse with
    | [] => ['-']
    | [last] => if isAnyBreak last then ['+'] else ['-']
    | last :: before :: _ =>
        if !isAnyBreak last then ['-'] else if isAnyBreak before then ['+'] else []
  '|' :: hint ++ chomping

/-- A text with its further lines indented. -/
def writeText (inLine : Bool) (indent : Nat) (s : String) : List Char :=
  let cs := s.toList
  match styleOf inLine s with
  | .plain => cs
  | .singleQuoted =>
      '\'' :: indented indent singleQuotedChar false cs ++
        (if endsInBreak cs then pad indent else []) ++ ['\'']
  | .literal => literalHeader cs ++ '\n' :: indented indent (fun c => [c]) true cs
  | _ => '"' :: cs.flatMap escaped ++ ['"']

/-- A line feed, unless the text has just ended a line. -/
def endLine (cs : List Char) : List Char := if endsInBreak cs then cs else cs ++ ['\n']

/-- The longest name, in bytes, that stands in one line with its content. -/
def nameLimit : Nat := 128

def isInlineName (s : String) : Bool :=
  !s.toList.any isAnyBreak && s.utf8ByteSize ≤ nameLimit

/-- Where a value stands: at the top, behind a name, or behind a mark that starts a line. -/
inductive Place
  | top
  | name
  | mark
  deriving DecidableEq

namespace Place

def scalar (place : Place) (text : List Char) : List Char :=
  if place = .top then endLine text else ' ' :: endLine text

/-- Behind a mark, the first entry of a collection stands in the same line. Behind a name, lists
are not indented. -/
def listIndent (place : Place) (indent : Nat) : Nat := if place = .mark then indent + 2 else indent

def recordIndent (place : Place) (indent : Nat) : Nat := if place = .top then indent else indent + 2

def opening (place : Place) (indent : Nat) : List Char :=
  match place with
  | .top => []
  | .name => '\n' :: pad indent
  | .mark => [' ']

end Place

mutual

/-- A value inside a collection of some indentation. -/
def writeAt (place : Place) (indent : Nat) : Value → List Char
  | .null => place.scalar ['n', 'u', 'l', 'l']
  | .natural n => place.scalar (Nat.toDigits 10 n)
  | .real x => place.scalar (numberForm.write x).toList
  | .text s => place.scalar (writeText false (indent + 2) s)
  | .list items =>
      if items.isEmpty then place.scalar ['[', ']']
      else
        let inner := place.listIndent indent
        place.opening inner ++ writeItems inner true items
  | .record members =>
      if members.isEmpty then place.scalar ['\x7b', '\x7d']
      else
        let inner := place.recordIndent indent
        place.opening inner ++ writeMembers inner true members

/-- The items of a list, each ending its line. All but the first one are indented. -/
def writeItems (indent : Nat) (first : Bool) : List Value → List Char
  | [] => []
  | item :: rest =>
      (if first then [] else pad indent) ++ '-' :: writeAt .mark indent item ++
        writeItems indent false rest

def writeMembers (indent : Nat) (first : Bool) : List (String × Value) → List Char
  | [] => []
  | (name, value) :: rest =>
      let member :=
        if isInlineName name then
          writeText true (indent + 2) name ++ ':' :: writeAt .name indent value
        else
          '?' :: ' ' :: endLine (writeText false (indent + 2) name) ++ pad indent ++
            ':' :: writeAt .mark indent value
      (if first then [] else pad indent) ++ member ++ writeMembers indent false rest

end

def write (v : Value) : String := String.ofList (writeAt .top 0 v)

end BenchCharts.Yaml

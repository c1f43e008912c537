import BenchCharts.Decimal.Numeral
import BenchCharts.Text.Identifier

/-!
Relaxed object notation as trees. Beside the strict notation there are comments, trailing commas,
names without quotes, single quotes, lines continued within a string, and numbers with a sign, in
hexadecimal or without digits on one side of the point. Numbers are kept as they are written.
-/
namespace BenchCharts.Json

inductive Node
  | null
  | boolean (b : Bool)
  | number (text : List Char)
  /-- A string; none if its escapes make no character. -/
  | text (s : Option String)
  | array (items : List Node)
  | object (members : List (Option String × Node))
  deriving Repr, Inhabited

def isLineEnd (c : Char) : Bool := c = '\n' || c = '\r' || c = '\u2028' || c = '\u2029'

def spaces : List (Nat × Nat) :=
  [(0x9, 0x9), (0xB, 0xC), (0x20, 0x20), (0xA0, 0xA0), (0x1680, 0x1680), (0x2000, 0x200A),
    (0x202F, 0x202F), (0x205F, 0x205F), (0x3000, 0x3000), (0xFEFF, 0xFEFF)]

def isSpace (c : Char) : Bool := Text.inRanges spaces c || isLineEnd c

inductive BlankPlace
  | outside
  | lineComment
  /-- Before the star that opens a comment in a block. -/
  | opening
  | blockComment
  /-- Before the slash that closes it. -/
  | closing
  deriving DecidableEq, Repr

/-- What follows spaces and comments; a comment in a block must be closed. -/
def skipFrom (place : BlankPlace) : List Char → Option (List Char)
  | [] => if place = .outside ∨ place = .lineComment then some [] else none
  | c :: rest =>
      match place with
      | .outside =>
          if isSpace c then skipFrom .outside rest
          else if c = '/' ∧ rest.head? = some '/' then skipFrom .lineComment rest
          else if c = '/' ∧ rest.head? = some '*' then skipFrom .opening rest
          else some (c :: rest)
      | .lineComment => skipFrom (if isLineEnd c then .outside else .lineComment) rest
      | .opening => skipFrom .blockComment rest
      | .blockComment =>
          skipFrom (if c = '*' ∧ rest.head? = some '/' then .closing else .blockComment) rest
      | .closing => skipFrom .outside rest

def skip (cs : List Char) : Option (List Char) := skipFrom .outside cs

/-- Characters of a string read so far, latest first; none once an escape made no character. A
code unit that starts a pair waits for the other one. -/
structure Units where
  chars : Option (List Char)
  waiting : Option Nat

namespace Units

def start : Units := ⟨some [], none⟩

def broken : Units := ⟨none, none⟩

def push (u : Units) (c : Char) : Units :=
  if u.waiting.isSome then broken else { u with chars := u.chars.map (c :: ·) }

/-- Adds a code unit given by an escape. -/
def pushUnit (u : Units) (n : Nat) : Units :=
  match u.waiting with
  | some high =>
      if 0xDC00 ≤ n ∧ n ≤ 0xDFFF then
        ⟨u.chars.map (Char.ofNat (0x10000 + (high - 0xD800) * 1024 + (n - 0xDC00)) :: ·), none⟩
      else broken
  | none =>
      if 0xD800 ≤ n ∧ n ≤ 0xDBFF then { u with waiting := some n }
      else if 0xDC00 ≤ n ∧ n ≤ 0xDFFF then broken
      else u.push (Char.ofNat n)

def finish (u : Units) : Option String :=
  if u.waiting.isSome then none else u.chars.map fun cs => String.ofList cs.reverse

end Units

inductive StringPlace
  | outside
  | escape
  /-- Digits that are still to come, and the value of those before. -/
  | digits (left value : Nat)
  /-- After a carriage return that continued the line. -/
  | lineEnd

def escapes : List (Char × Char) :=
  [('b', '\x08'), ('f', '\x0c'), ('n', '\n'), ('r', '\r'), ('t', '\t'), ('v', '\x0b'),
    ('0', '\x00')]

/-- A string after its opening quote. -/
def stringFrom (quote : Char) (u : Units) (place : StringPlace) :
    List Char → Option (Option String × List Char)
  | [] => none
  | c :: rest =>
      let outside : Option (Option String × List Char) :=
        if c = quote then some (u.finish, rest)
        else if c = '\\' then stringFrom quote u .escape rest
        else if c = '\n' ∨ c = '\r' then none
        else stringFrom quote (u.push c) .outside rest
      match place with
      | .outside => outside
      | .lineEnd => if c = '\n' then stringFrom quote u .outside rest else outside
      | .escape =>
          if c = 'x' then stringFrom quote u (.digits 2 0) rest
          else if c = 'u' then stringFrom quote u (.digits 4 0) rest
          else if c = '\r' then stringFrom quote u .lineEnd rest
          else if isLineEnd c then stringFrom quote u .outside rest
          else match escapes.lookup c with
            | some d => stringFrom quote (u.push d) .outside rest
            | none =>
                if c.isDigit then none else stringFrom quote (u.push c) .outside rest
      | .digits left value =>
          match Decimal.digitValue? 16 c with
          | none => none
          | some digit =>
              let value := value * 16 + digit
              if 1 < left then stringFrom quote u (.digits (left - 1) value) rest
              else stringFrom quote (u.pushUnit value) .outside rest

/-- A name without quotes. -/
def nameFrom (first : Bool) (u : Units) : List Char → Option (Option String × List Char)
  | '\\' :: 'u' :: a :: b :: c :: d :: rest =>
      match [a, b, c, d].mapM (Decimal.digitValue? 16) with
      | some digits => nameFrom false (u.pushUnit (digits.foldl (fun n d => n * 16 + d) 0)) rest
      | none => if first then none else some (u.finish, '\\' :: 'u' :: a :: b :: c :: d :: rest)
  | c :: rest =>
      if if first then Text.startsIdentifier c else Text.continuesIdentifier c then
        nameFrom false (u.push c) rest
      else if first then none else some (u.finish, c :: rest)
  | [] => if first then none else some (u.finish, [])

def isDigit (c : Char) : Bool := c.isDigit

def isHexDigit (c : Char) : Bool := (Decimal.digitValue? 16 c).isSome

/-- An exponent, if digits follow its mark. -/
def exponent (cs : List Char) : List Char × List Char :=
  match cs with
  | mark :: rest =>
      if mark = 'e' ∨ mark = 'E' then
        let (sign, digits) := match rest with
          | '+' :: digits => (['+'], digits)
          | '-' :: digits => (['-'], digits)
          | digits => ([], digits)
        let power := digits.takeWhile isDigit
        if power.isEmpty then ([], cs)
        else (mark :: sign ++ power, digits.dropWhile isDigit)
      else ([], cs)
  | [] => ([], [])

/-- Whole digits without a needless zero. -/
def wholeDigits (cs : List Char) : List Char × List Char :=
  match cs with
  | '0' :: rest => (['0'], rest)
  | cs => (cs.takeWhile isDigit, cs.dropWhile isDigit)

def decimal (cs : List Char) : Option (List Char × List Char) :=
  let (whole, rest) := wholeDigits cs
  let (fraction, after) := match rest with
    | '.' :: rest =>
        let digits := rest.takeWhile isDigit
        if whole.isEmpty && digits.isEmpty then ([], rest)
        else ('.' :: digits, rest.dropWhile isDigit)
    | rest => ([], rest)
  if whole.isEmpty && fraction.isEmpty then none
  else
    let (power, after) := exponent after
    some (whole ++ fraction ++ power, after)

def magnitude (cs : List Char) : Option (List Char × List Char) :=
  let infinity := "Infinity".toList
  let nan := "NaN".toList
  match cs with
  | '0' :: x :: rest =>
      let digits := rest.takeWhile isHexDigit
      if (x = 'x' ∨ x = 'X') ∧ digits ≠ [] then some ('0' :: x :: digits, rest.dropWhile isHexDigit)
      else decimal cs
  | cs =>
      if cs.take infinity.length = infinity then some (infinity, cs.drop infinity.length)
      else if cs.take nan.length = nan then some (nan, cs.drop nan.length)
      else decimal cs

def number (cs : List Char) : Option (List Char × List Char) :=
  match cs with
  | '+' :: rest => (magnitude rest).map fun (text, rest) => ('+' :: text, rest)
  | '-' :: rest => (magnitude rest).map fun (text, rest) => ('-' :: text, rest)
  | cs => magnitude cs

/-- The key of a member: a string or a name. -/
def key : List Char → Option (Option String × List Char)
  | '"' :: rest => stringFrom '"' .start .outside rest
  | '\'' :: rest => stringFrom '\'' .start .outside rest
  | cs => nameFrom true .start cs

mutual

def value : Nat → List Char → Option (Node × List Char)
  | 0, _ => none
  | fuel + 1, cs =>
      match cs with
      | 'n' :: 'u' :: 'l' :: 'l' :: rest => some (.null, rest)
      | 't' :: 'r' :: 'u' :: 'e' :: rest => some (.boolean true, rest)
      | 'f' :: 'a' :: 'l' :: 's' :: 'e' :: rest => some (.boolean false, rest)
      | '"' :: rest => (stringFrom '"' .start .outside rest).map fun (s, rest) => (.text s, rest)
      | '\'' :: rest => (stringFrom '\'' .start .outside rest).map fun (s, rest) => (.text s, rest)
      | '[' :: rest => (items fuel rest).map fun (items, rest) => (.array items, rest)
      | '\x7b' :: rest => (members fuel rest).map fun (members, rest) => (.object members, rest)
      | cs => (number cs).map fun (text, rest) => (.number text, rest)

/-- The items of an array up to its closing bracket. -/
def items : Nat → List Char → Option (List Node × List Char)
  | 0, _ => none
  | fuel + 1, cs => do
      match ← skip cs with
      | ']' :: rest => some ([], rest)
      | cs =>
          let (item, rest) ← value fuel cs
          match ← skip rest with
          | ',' :: rest =>
              let (more, rest) ← items fuel rest
              some (item :: more, rest)
          | ']' :: rest => some ([item], rest)
          | _ => none

/-- The members of an object up to its closing brace. -/
def members : Nat → List Char → Option (List (Option String × Node) × List Char)
  | 0, _ => none
  | fuel + 1, cs => do
      match ← skip cs with
      | '\x7d' :: rest => some ([], rest)
      | cs =>
          let (name, rest) ← key cs
          match ← skip rest with
          | ':' :: rest =>
              let (content, rest) ← value fuel (← skip rest)
              match ← skip rest with
              | ',' :: rest =>
                  let (more, rest) ← members fuel rest
                  some ((name, content) :: more, rest)
              | '\x7d' :: rest => some ([(name, content)], rest)
              | _ => none
          | _ => none

end

/-- The value that a text consists of. -/
def parse? (text : String) : Option Node := do
  let cs := text.toList
  let (node, rest) ← value (cs.length + 1) (← skip cs)
  match ← skip rest with
  | [] => some node
  | _ => none

end BenchCharts.Json

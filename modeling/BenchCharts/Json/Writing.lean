import BenchCharts.Decimal.NumberForm
import BenchCharts.Format.Value

/-!
Values in strict object notation, with one item or member in each line. Doubles have a point or an
exponent with its sign; those that are infinite or no number are written as null.
-/
namespace BenchCharts.Json

open Format (Value)

def numberForm : Decimal.NumberForm :=
  { least := -5, greatest := 15, wholePoint := true, plusSign := true, nan := "null",
    infinity := "null", negativeInfinity := "null" }

def hexByte (n : Nat) : List Char := [Nat.digitChar (n / 16), Nat.digitChar (n % 16)]

/-- Control characters are escaped, and the quote and the backslash. -/
def escaped (c : Char) : List Char :=
  if c = '"' then ['\\', '"']
  else if c = '\\' then ['\\', '\\']
  else if c = '\x08' then ['\\', 'b']
  else if c = '\t' then ['\\', 't']
  else if c = '\n' then ['\\', 'n']
  else if c = '\x0c' then ['\\', 'f']
  else if c = '\r' then ['\\', 'r']
  else if c.toNat < 0x20 then ['\\', 'u', '0', '0'] ++ hexByte c.toNat
  else [c]

def string (s : String) : List Char := '"' :: s.toList.flatMap escaped ++ ['"']

def newLine (depth : Nat) : List Char := '\n' :: List.replicate (2 * depth) ' '

mutual

/-- A value whose lines are indented for its depth. -/
def writeAt (depth : Nat) : Value → List Char
  | .null => ['n', 'u', 'l', 'l']
  | .natural n => Nat.toDigits 10 n
  | .real x => (numberForm.write x).toList
  | .text s => string s
  | .list [] => ['[', ']']
  | .list (item :: rest) =>
      '[' :: newLine (depth + 1) ++ writeAt (depth + 1) item ++ writeItems (depth + 1) rest ++
        newLine depth ++ [']']
  | .record [] => ['\x7b', '\x7d']
  | .record ((name, value) :: rest) =>
      '\x7b' :: newLine (depth + 1) ++ string name ++ [':', ' '] ++ writeAt (depth + 1) value ++
        writeMembers (depth + 1) rest ++ newLine depth ++ ['\x7d']

/-- The items after the first one. -/
def writeItems (depth : Nat) : List Value → List Char
  | [] => []
  | item :: rest => ',' :: newLine depth ++ writeAt depth item ++ writeItems depth rest

/-- The members after the first one. -/
def writeMembers (depth : Nat) : List (String × Value) → List Char
  | [] => []
  | (name, value) :: rest =>
      ',' :: newLine depth ++ string name ++ [':', ' '] ++ writeAt depth value ++
        writeMembers depth rest

end

def write (v : Value) : String := String.ofList (writeAt 0 v)

end BenchCharts.Json

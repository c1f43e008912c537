/-!
Reading numbers. Whole numbers are ASCII digits after an optional plus sign and must fit their
type; doubles are decimal numerals with an optional fraction and exponent, or one of the words for
infinity and for no number. A reading fails with its cause.
-/
namespace BenchCharts.Decimal

inductive NumeralError
  | emptyInteger
  | invalidDigit
  | tooLarge
  | emptyReal
  | invalidReal
  deriving DecidableEq, Repr

def NumeralError.message : NumeralError → String
  | emptyInteger => "cannot parse integer from empty string"
  | invalidDigit => "invalid digit found in string"
  | tooLarge => "number too large to fit in target type"
  | emptyReal => "cannot parse float from empty string"
  | invalidReal => "invalid float literal"

/-- The value of a digit in a base of at most sixteen. -/
def digitValue? (base : Nat) (c : Char) : Option Nat :=
  let value :=
    if '0' ≤ c ∧ c ≤ '9' then some (c.toNat - '0'.toNat)
    else if 'a' ≤ c ∧ c ≤ 'f' then some (c.toNat - 'a'.toNat + 10)
    else if 'A' ≤ c ∧ c ≤ 'F' then some (c.toNat - 'A'.toNat + 10)
    else none
  value.filter (· < base)

/-- Digits are taken from the left; the first one that is none, or that leads past the bound,
decides the error. -/
def readDigits (base bound : Nat) : Nat → List Char → Except NumeralError Nat
  | total, [] => .ok total
  | total, c :: rest =>
      match digitValue? base c with
      | none => .error .invalidDigit
      | some digit =>
          let next := total * base + digit
          if next ≤ bound then readDigits base bound next rest else .error .tooLarge

/-- A whole number up to `bound`, with an optional plus sign. -/
def readNatural (base bound : Nat) (cs : List Char) : Except NumeralError Nat :=
  match cs with
  | [] => .error .emptyInteger
  | ['+'] => .error .invalidDigit
  | '+' :: rest => readDigits base bound 0 rest
  | _ => readDigits base bound 0 cs

/-- The largest number of 64 bits. -/
def maxWord : Nat := UInt64.size - 1

/-- The largest number of 32 bits. -/
def maxHalfWord : Nat := UInt32.size - 1

theorem readDigits_le (base bound total n : Nat) (cs : List Char) (hle : total ≤ bound)
    (h : readDigits base bound total cs = .ok n) : n ≤ bound := by
  induction cs generalizing total with
  | nil =>
    simp only [readDigits, Except.ok.injEq] at h
    omega
  | cons c rest ih =>
    simp only [readDigits] at h
    split at h
    · simp at h
    · split at h
      · exact ih _ (by assumption) h
      · simp at h

theorem readNatural_le (base bound n : Nat) (cs : List Char)
    (h : readNatural base bound cs = .ok n) : n ≤ bound := by
  unfold readNatural at h
  split at h
  · simp at h
  · simp at h
  · exact readDigits_le _ _ _ _ _ (Nat.zero_le _) h
  · exact readDigits_le _ _ _ _ _ (Nat.zero_le _) h

/-- A decimal numeral: whole digits and a power of ten, with a sign. -/
structure Numeral where
  negative : Bool
  digits : Nat
  exponent : Int
  deriving DecidableEq, Repr

def isDigit (c : Char) : Bool := '0' ≤ c && c ≤ '9'

def digitsValue (cs : List Char) : Nat :=
  cs.foldl (fun total c => total * 10 + (c.toNat - '0'.toNat)) 0

/-- An exponent mark with its digits; the rest of the numeral must be nothing or that. -/
def readExponent : List Char → Option Int
  | [] => some 0
  | mark :: rest =>
      if mark = 'e' ∨ mark = 'E' then
        let (negative, digits) := match rest with
          | '-' :: digits => (true, digits)
          | '+' :: digits => (false, digits)
          | digits => (false, digits)
        if digits.isEmpty || !digits.all isDigit then none
        else some (if negative then -digitsValue digits else digitsValue digits)
      else none

/-- Digits with an optional point among them, and an optional exponent. -/
def readUnsignedNumeral (cs : List Char) : Option (Nat × Int) :=
  let whole := cs.takeWhile isDigit
  let rest := cs.dropWhile isDigit
  let (fraction, rest) := match rest with
    | '.' :: rest => (rest.takeWhile isDigit, rest.dropWhile isDigit)
    | _ => ([], rest)
  if whole.isEmpty && fraction.isEmpty then none
  else (readExponent rest).map fun exponent =>
    (digitsValue (whole ++ fraction), exponent - fraction.length)

/-- The sign of a numeral and what follows it. -/
def splitSign : List Char → Bool × List Char
  | '-' :: rest => (true, rest)
  | '+' :: rest => (false, rest)
  | cs => (false, cs)

def readNumeral (cs : List Char) : Option Numeral :=
  let (negative, magnitude) := splitSign cs
  (readUnsignedNumeral magnitude).map fun (digits, exponent) => ⟨negative, digits, exponent⟩

/-- The nearest double; magnitudes past every double become infinite, those below half of the
smallest one zero. -/
def Numeral.toFloat (n : Numeral) : Float :=
  let order : Int := (Nat.toDigits 10 n.digits).length + n.exponent
  let magnitude : Float :=
    if n.digits = 0 ∨ order < -400 then 0
    else if 400 < order then 1.0 / 0.0
    else if n.exponent < 0 then Float.ofScientific n.digits true n.exponent.natAbs
    else Float.ofScientific n.digits false n.exponent.natAbs
  if n.negative then -magnitude else magnitude

private def lowerAscii (c : Char) : Char := c.toLower

def notANumber : Float := 0.0 / 0.0

def infinity : Float := 1.0 / 0.0

/-- A double in one of its textual forms. -/
def readReal (cs : List Char) : Except NumeralError Float :=
  if cs.isEmpty then .error .emptyReal
  else match readNumeral cs with
    | some n => .ok n.toFloat
    | none =>
        let (negative, magnitude) := splitSign cs
        let word := String.ofList (magnitude.map lowerAscii)
        if word = "inf" ∨ word = "infinity" then .ok (if negative then -infinity else infinity)
        else if word = "nan" then .ok notANumber
        else .error .invalidReal

end BenchCharts.Decimal

import BenchCharts.Yaml.Scalar

/-!
Tags and directives. A tag is a handle with a suffix, or a whole name between angle brackets. A
directive states the version of the format or gives a handle a meaning. Names are addresses, in
which a percent sign escapes one byte of a character.
-/
namespace BenchCharts.Yaml

structure Tag where
  handle : String
  suffix : String
  deriving DecidableEq, Repr

/-- The handle at the start of a tag: an exclamation mark, or a name between two of them. In a
tag the second one may be missing, and the name then belongs to the suffix. -/
def tagHandle (inDirective : Bool) : List Char → Option (List Char × List Char)
  | '!' :: rest =>
      let name := rest.takeWhile isNameChar
      match rest.dropWhile isNameChar with
      | '!' :: rest => some ('!' :: name ++ ['!'], rest)
      | rest => if inDirective && !name.isEmpty then none else some ('!' :: name, rest)
  | _ => none

private def addressSigns : List Char :=
  [';', '/', '?', ':', '@', '&', '=', '+', '$', '.', '!', '~', '*', '\'', '(', ')']

/-- Commas and brackets belong to an address only where it is delimited. -/
def isAddressChar (delimited : Bool) (c : Char) : Bool :=
  isNameChar c || addressSigns.contains c || (delimited && (c = ',' || c = '[' || c = ']'))

/-- How many bytes follow the first byte of a character, and the bits it contributes. -/
private def leadingByte? (byte : Nat) : Option (Nat × Nat) :=
  if byte < 0x80 then some (0, byte)
  else if 0xC0 ≤ byte ∧ byte < 0xE0 then some (1, byte % 32)
  else if 0xE0 ≤ byte ∧ byte < 0xF0 then some (2, byte % 16)
  else if 0xF0 ≤ byte ∧ byte < 0xF8 then some (3, byte % 8)
  else none

private def hexByte? (a b : Char) : Option Nat := do
  let high ← Decimal.digitValue? 16 a
  let low ← Decimal.digitValue? 16 b
  return high * 16 + low

/-- Reads an address. Of a character in escapes, `left` bytes are still to come and `value` holds
the bits so far. -/
def addressFrom (delimited : Bool) (text : List Char) (left value : Nat) :
    List Char → Option (List Char × List Char)
  | '%' :: a :: b :: rest =>
      match hexByte? a b with
      | none => none
      | some byte =>
          let next? : Option (Nat × Nat) :=
            if left = 0 then leadingByte? byte
            else if 0x80 ≤ byte ∧ byte < 0xC0 then some (left - 1, value * 64 + byte % 64)
            else none
          match next? with
          | none => none
          | some (0, value) =>
              match charOfCode? value with
              | none => none
              | some c => addressFrom delimited (c :: text) 0 0 rest
          | some (left, value) => addressFrom delimited text left value rest
  | c :: rest =>
      if 0 < left then none
      else if c = '%' then none
      else if isAddressChar delimited c then addressFrom delimited (c :: text) 0 0 rest
      else some (text.reverse, c :: rest)
  | [] => if 0 < left then none else some (text.reverse, [])

/-- An address of at least one character. -/
def address (delimited : Bool) (cs : List Char) : Option (List Char × List Char) :=
  (addressFrom delimited [] 0 0 cs).filter fun (text, _) => !text.isEmpty

private def tagParts (cs : List Char) : Option (Tag × List Char) :=
  match cs with
  | '!' :: '<' :: rest =>
      match address true rest with
      | some (text, '>' :: rest) => some (⟨"", String.ofList text⟩, rest)
      | _ => none
  | cs => do
      let (handle, rest) ← tagHandle false cs
      if 2 ≤ handle.length ∧ handle.getLast? = some '!' then
        let (suffix, rest) ← address false rest
        return (⟨String.ofList handle, String.ofList suffix⟩, rest)
      else
        let (more, rest) ← addressFrom false [] 0 0 rest
        let suffix := handle.drop 1 ++ more
        if suffix.isEmpty then return (⟨"", "!"⟩, rest)
        else return (⟨"!", String.ofList suffix⟩, rest)

/-- A tag, which a blank or break must follow, or a comma inside flow collections. -/
def tag (inFlow : Bool) (cs : List Char) : Option (Tag × List Char) :=
  (tagParts cs).filter fun (_, rest) => atWordEnd rest || (inFlow && rest.head? = some ',')

inductive Directive
  | version (major minor : Nat)
  | handle (handle stem : String)
  deriving DecidableEq, Repr

/-- A number of at most nine digits. -/
private def versionNumber (cs : List Char) : Option (Nat × List Char) :=
  let digits := cs.takeWhile Char.isDigit
  if digits.isEmpty ∨ 9 < digits.length then none
  else some (digits.foldl (fun n c => n * 10 + (c.toNat - '0'.toNat)) 0, cs.drop digits.length)

private def version (cs : List Char) : Option (Directive × List Char) :=
  match versionNumber (cs.dropWhile isBlank) with
  | some (major, '.' :: rest) =>
      (versionNumber rest).map fun (minor, rest) => (.version major minor, rest)
  | _ => none

private def handleMeaning (cs : List Char) : Option (Directive × List Char) := do
  let (handle, rest) ← tagHandle true (cs.dropWhile isBlank)
  if rest.head?.any isBlank then
    let (stem, rest) ← address true (rest.dropWhile isBlank)
    if atWordEnd rest then return (.handle (String.ofList handle) (String.ofList stem), rest)
    else none
  else none

/-- A directive after its percent sign, up to the break that ends its line. -/
def directive (cs : List Char) : Option (Directive × List Char) := do
  let name := cs.takeWhile isNameChar
  let rest := cs.dropWhile isNameChar
  if !atWordEnd rest then none
  let (directive, rest) ←
    if name = ['Y', 'A', 'M', 'L'] then version rest
    else if name = ['T', 'A', 'G'] then handleMeaning rest
    else none
  let rest := rest.dropWhile isBlank
  let rest := if rest.head? = some '#' then rest.dropWhile fun c => !isBreak c else rest
  if atLineEnd rest then return (directive, rest) else none

end BenchCharts.Yaml

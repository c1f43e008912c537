import BenchCharts.Decimal.Numeral
import BenchCharts.Format.Decoding
import BenchCharts.Yaml.Node

/-!
What the nodes of a document stand for. Only plain scalars are numbers, while every scalar is a
text. A node that was left out is an empty list or record, and a tag with an exclamation mark names
a choice. Reading fails at the place where a document is cut, so a fault before the cut wins.
-/
namespace BenchCharts.Yaml

open Format (Decoded DecodeError Members Source)

/-- A node together with the document in which its aliases have a meaning. -/
structure Cell where
  document : Document
  node : Node

namespace Cell

def content (c : Cell) : Node := c.document.resolve c.node

def sibling (c : Cell) (node : Node) : Cell := { c with node }

end Cell

def isNullWord (s : String) : Bool := ["null", "Null", "NULL", "~"].contains s

/-- Digits that start with a needless zero are no whole number. -/
def hasNeedlessZero (cs : List Char) : Bool :=
  match (Decimal.splitSign cs).2 with
  | '0' :: c :: rest => (c :: rest).all Char.isDigit
  | _ => false

def startsWithSign (cs : List Char) : Bool := cs.head?.any fun c => c = '+' || c = '-'

/-- The base of a numeral with its digits, which no sign may precede. -/
def based? : List Char → Option (Nat × List Char)
  | '0' :: 'x' :: rest => some (16, rest)
  | '0' :: 'o' :: rest => some (8, rest)
  | '0' :: 'b' :: rest => some (2, rest)
  | _ => none

def digits? (base bound : Nat) (cs : List Char) : Option Nat :=
  if startsWithSign cs then none else (Decimal.readNatural base bound cs).toOption

def withoutPlus (cs : List Char) : List Char :=
  match cs with
  | '+' :: rest => rest
  | cs => cs

/-- A whole number without a minus sign: decimal, or in one of three other bases. -/
def natural? (bound : Nat) (cs : List Char) : Option Nat :=
  let magnitude := withoutPlus cs
  match (based? magnitude).bind fun (base, rest) => digits? base bound rest with
  | some n => some n
  | none => if hasNeedlessZero cs then none else digits? 10 bound magnitude

/-- A finite decimal numeral, or one of the words for what is infinite or no number. -/
def real? (cs : List Char) : Option Float :=
  let magnitude := withoutPlus cs
  if cs.head? = some '+' && startsWithSign magnitude then none
  else if [".inf", ".Inf", ".INF"].contains (String.ofList magnitude) then some Decimal.infinity
  else if ["-.inf", "-.Inf", "-.INF"].contains (String.ofList cs) then some (-Decimal.infinity)
  else if [".nan", ".NaN", ".NAN"].contains (String.ofList cs) then some Decimal.notANumber
  else (Decimal.readReal magnitude).toOption.filter Float.isFinite

/-- The full name of a standard tag. -/
def standardTag (name : String) : String := "tag:yaml.org,2002:" ++ name

/-- A number is a plain scalar, or a literal block with the tag of its kind. -/
def isNumeral (kind : String) (tag : Option String) (style : ScalarStyle) : Bool :=
  style = .plain || (style = .literal && tag = some (standardTag kind))

/-- A scalar that was left out. -/
def isAbsent (style : ScalarStyle) (text : String) : Bool := style = .plain && text.isEmpty

/-- The name of the choice that a tag makes. -/
def choiceOfTag? (tag : Option String) : Option String :=
  tag.bind fun tag =>
    match tag.toList with
    | '!' :: name => some (String.ofList name)
    | _ => none

namespace Cell

def text (c : Cell) : Decoded String :=
  match c.content with
  | .scalar _ _ text => .ok text
  | _ => .error .invalid

def natural (bound : Nat) (c : Cell) : Decoded Nat :=
  match c.content with
  | .scalar tag style text =>
      if isNumeral "int" tag style then
        match (natural? Decimal.maxWord text.toList).filter (· ≤ bound) with
        | some n => .ok n
        | none => .error .invalid
      else .error .invalid
  | _ => .error .invalid

def real (c : Cell) : Decoded Float :=
  match c.content with
  | .scalar tag style text =>
      if isNumeral "float" tag style then
        match real? text.toList with
        | some x => .ok x
        | none => .error .invalid
      else .error .invalid
  | _ => .error .invalid

/-- A scalar with the tag for nothing must say so. -/
def isNull (c : Cell) : Decoded Bool :=
  match c.content with
  | .cut => .error .invalid
  | .void => .ok true
  | .scalar tag style text =>
      if tag = some (standardTag "null") then
        if isNullWord text then .ok true else .error .invalid
      else if tag.isSome then .ok false
      else .ok (style = .plain && (text.isEmpty || isNullWord text))
  | _ => .ok false

def items (c : Cell) : Decoded (List Cell) :=
  match c.content with
  | .sequence _ items => .ok (items.map c.sibling)
  | .void => .ok []
  | .scalar _ style text => if isAbsent style text then .ok [] else .error .invalid
  | _ => .error .invalid

def members (c : Cell) : Decoded (Members Cell) :=
  match c.content with
  | .mapping _ members =>
      .ok (.named (members.map fun (key, value) => (c.sibling key, c.sibling value)))
  | .void => .ok (.named [])
  | .scalar _ style text => if isAbsent style text then .ok (.named []) else .error .invalid
  | _ => .error .invalid

/-- A tag makes the choice if there is one, and otherwise the text does. -/
def choice (c : Cell) : Decoded (String × Decoded Unit) :=
  match c.content with
  | .scalar tag _ text =>
      match choiceOfTag? tag with
      | some name =>
          .ok (name, if text.isEmpty || isNullWord text then .ok () else .error .invalid)
      | none => .ok (text, .ok ())
  | .sequence tag _ =>
      match choiceOfTag? tag with
      | some name => .ok (name, .error .invalid)
      | none => .error .invalid
  | .mapping tag _ =>
      match choiceOfTag? tag with
      | some name => .ok (name, .error .invalid)
      | none => .error .invalid
  | _ => .error .invalid

def ignore (c : Cell) : Decoded Unit := if c.node.isWhole then .ok () else .error .invalid

end Cell

instance : Source Cell where
  text := Cell.text
  natural := Cell.natural
  real := Cell.real
  isNull := Cell.isNull
  items := Cell.items
  members := Cell.members
  choice := Cell.choice
  exactLength _ := true
  ignore := Cell.ignore

/-- Reads a text that holds one document. -/
def decode {α : Type} (read : Cell → Decoded α) (text : String) : Decoded α := do
  let document := Document.parse text
  let value ← read ⟨document, document.root⟩
  if document.isComplete then return value else .error .invalid

end BenchCharts.Yaml

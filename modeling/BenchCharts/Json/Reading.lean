import BenchCharts.Format.Decoding
import BenchCharts.Json.Node
import BenchCharts.Quantity

/-!
What the nodes of relaxed object notation stand for. Every number can be read as a whole number: it
loses its fraction and is kept within the bounds, and what is no number becomes zero. An array may
stand for a record, with the fields in their order, and items that are left over do not matter.
-/
namespace BenchCharts.Json

open Format (Decoded DecodeError Members Source)

/-- The value of a number. Hexadecimal ones have no sign and 32 bits, and decimal ones that are too
large are refused. -/
def numberValue? (text : List Char) : Option Float :=
  let s := String.ofList text
  if s = "Infinity" then some Decimal.infinity
  else if s = "-Infinity" then some (-Decimal.infinity)
  else if s = "NaN" ∨ s = "-NaN" then some Decimal.notANumber
  else match text with
    | '0' :: x :: digits =>
        if x = 'x' ∨ x = 'X' then
          (Decimal.readNatural 16 Decimal.maxHalfWord digits).toOption.map wordToFloat
        else finite? text
    | text => finite? text
where
  finite? (text : List Char) : Option Float :=
    (Decimal.readReal text).toOption.filter Float.isFinite

namespace Node

def readText : Node → Decoded String
  | text (some s) => .ok s
  | _ => .error .invalid

def readReal : Node → Decoded Float
  | number written =>
      match numberValue? written with
      | some x => .ok x
      | none => .error .invalid
  | _ => .error .invalid

def readNatural (bound : Nat) (node : Node) : Decoded Nat :=
  node.readReal.map fun x => (saturate 0 bound x).toNat

def isNull : Node → Bool
  | null => true
  | _ => false

def readItems : Node → Decoded (List Node)
  | array items => .ok items
  | _ => .error .invalid

def readMembers : Node → Decoded (Members Node)
  | array items => .ok (.ordered items)
  | object members => .ok (.named (members.map fun (key, value) => (text key, value)))
  | _ => .error .invalid

/-- A choice is a string, or an object whose first member has its name and no content. -/
def readChoice : Node → Decoded (String × Decoded Unit)
  | text (some s) => .ok (s, .ok ())
  | object ((some name, content) :: _) =>
      .ok (name, if content.isNull then .ok () else .error .invalid)
  | _ => .error .invalid

end Node

instance : Source Node where
  text := Node.readText
  natural := Node.readNatural
  real := Node.readReal
  isNull node := .ok node.isNull
  items := Node.readItems
  members := Node.readMembers
  choice := Node.readChoice
  exactLength _ := false
  ignore _ := .ok ()

def decode {α : Type} (read : Node → Decoded α) (text : String) : Decoded α :=
  match parse? text with
  | some node => read node
  | none => .error .invalid

end BenchCharts.Json

/-!
Values as they are written to documents: numbers, texts, lists, and records whose members keep
their order. The same value can be written in either of the two formats.
-/
namespace BenchCharts.Format

inductive Value
  | null
  | natural (n : Nat)
  | real (x : Float)
  | text (s : String)
  | list (items : List Value)
  | record (members : List (String × Value))
  deriving Repr, Inhabited

namespace Value

def ofOption {α : Type} (write : α → Value) : Option α → Value
  | none => null
  | some a => write a

def ofList {α : Type} (write : α → Value) (items : List α) : Value := list (items.map write)

end Value

end BenchCharts.Format

/-!
Hatch patterns in the usual character notation. Slash and backslash are diagonals, bar and hyphen
straight lines, the crossings stand for two strokes each, and dots and stars are placed on a grid.
A repeated character makes its strokes denser; other characters mean nothing.
-/
namespace BenchCharts.Style

inductive Stroke
  | forward
  | back
  | vertical
  | horizontal
  | dots
  | stars
  deriving DecidableEq, Repr, Inhabited

namespace Stroke

def all : List Stroke := [forward, back, vertical, horizontal, dots, stars]

/-- Strokes are drawn in the order in which they are declared. -/
instance : LT Stroke := ⟨fun a b => a.ctorIdx < b.ctorIdx⟩

instance : DecidableLT Stroke := fun a b => inferInstanceAs (Decidable (a.ctorIdx < b.ctorIdx))

/-- Counts a stroke once more, where the counts stand in the order of their strokes. -/
def countInto (stroke : Stroke) : List (Stroke × Nat) → List (Stroke × Nat)
  | [] => [(stroke, 1)]
  | (s, n) :: rest =>
      if stroke < s then (stroke, 1) :: (s, n) :: rest
      else if stroke = s then (s, n + 1) :: rest
      else (s, n) :: countInto stroke rest

end Stroke

structure Hatch where
  text : String
  deriving DecidableEq, Repr, Inhabited

namespace Hatch

def none : Hatch := ⟨""⟩

def strokesOf (c : Char) : List Stroke :=
  if c = '/' then [.forward]
  else if c = '\\' then [.back]
  else if c = '|' then [.vertical]
  else if c = '-' then [.horizontal]
  else if c = 'x' ∨ c = 'X' then [.forward, .back]
  else if c = '+' then [.vertical, .horizontal]
  else if c = '.' ∨ c = 'o' ∨ c = 'O' then [.dots]
  else if c = '*' then [.stars]
  else []

/-- The strokes that occur, in the order in which they are drawn, with their densities. -/
def strokes (h : Hatch) : List (Stroke × Nat) :=
  (h.text.toList.flatMap strokesOf).foldl (fun counts stroke => stroke.countInto counts) []

end Hatch

end BenchCharts.Style

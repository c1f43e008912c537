/-!
Shapes drawn at the points of a line, and the ways a line itself is broken into dashes.
-/
namespace BenchCharts.Style

inductive Marker
  | circle
  | triangleUp
  | triangleDown
  | square
  | star
  | plus
  | cross
  deriving DecidableEq, Repr, Inhabited

def Marker.named : List (String × Marker) :=
  [("circle", circle), ("triangle_up", triangleUp), ("triangle_down", triangleDown),
    ("square", square), ("star", star), ("plus", plus), ("cross", cross)]

def Marker.name : Marker → String
  | circle => "circle"
  | triangleUp => "triangle_up"
  | triangleDown => "triangle_down"
  | square => "square"
  | star => "star"
  | plus => "plus"
  | cross => "cross"

theorem Marker.lookup_name (m : Marker) : named.lookup m.name = some m := by cases m <;> rfl

end BenchCharts.Style

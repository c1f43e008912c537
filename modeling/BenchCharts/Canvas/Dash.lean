import BenchCharts.Canvas.Area
import BenchCharts.Canvas.Axis

/-!
Broken lines. A path is walked at single precision, dashes and gaps taking turns, and every dash is
a path of its own with the corners that lie on it. The last dash may be shorter than the others.
-/
namespace BenchCharts.Canvas

abbrev FinePoint := Float32 × Float32

/-- A walk along a path: how far the current dash or gap has come, and the dash in hand with its
latest point first. -/
structure DashWalk where
  place : FinePoint
  covered : Float32
  inDash : Bool
  current : List Pixel
  dashes : List (List Pixel)

namespace DashWalk

def fine (p : Pixel) : FinePoint := ((Float.ofInt p.1).toFloat32, (Float.ofInt p.2).toFloat32)

def coarse (p : FinePoint) : Pixel :=
  (wholePixel p.1.round.toFloat, wholePixel p.2.round.toFloat)

def start (p : Pixel) : DashWalk := ⟨fine p, 0, true, [coarse (fine p)], []⟩

def distance (dx dy : Float32) : Float32 :=
  (Float.sqrt (dx.toFloat * dx.toFloat + dy.toFloat * dy.toFloat)).toFloat32

/-- Walks towards `goal` to the end of the current dash or gap, or to the goal if it is nearer. -/
def step (dash gap : Float32) (goal : FinePoint) (w : DashWalk) : DashWalk :=
  let dx := goal.1 - w.place.1
  let dy := goal.2 - w.place.2
  let far := distance dx dy
  let length := if w.inDash then dash else gap
  let left := length - w.covered
  let (place, covered) :=
    if left < far then
      let t := left / far
      ((w.place.1 + dx * t, w.place.2 + dy * t), w.covered + left)
    else (goal, w.covered + far)
  let current := if w.inDash then coarse place :: w.current else w.current
  if length ≤ covered then
    if w.inDash then ⟨place, 0, false, [], w.dashes ++ [current.reverse]⟩
    else ⟨place, 0, true, [coarse place], w.dashes⟩
  else ⟨place, covered, w.inDash, current, w.dashes⟩

def walkTo (dash gap : Float32) (goal : FinePoint) : Nat → DashWalk → DashWalk
  | 0, w => w
  | fuel + 1, w =>
      if w.place.1 == goal.1 && w.place.2 == goal.2 then w
      else walkTo dash gap goal fuel (step dash gap goal w)

/-- Dashes and gaps are at least a pixel long, which bounds the steps between two corners. -/
def stepLimit (a b : Pixel) : Nat := 4 * ((a.1 - b.1).natAbs + (a.2 - b.2).natAbs) + 8

def walk (dash gap : Float32) (w : DashWalk) (origin : Pixel) : List Pixel → DashWalk
  | [] => w
  | goal :: rest =>
      walk dash gap (walkTo dash gap (fine goal) (stepLimit origin goal) w) goal rest

def finish (w : DashWalk) : List (List Pixel) :=
  if 2 ≤ w.current.length then w.dashes ++ [w.current.reverse] else w.dashes

end DashWalk

/-- The dashes of a path. -/
def dashed (dash gap : Nat) : List Pixel → List (List Pixel)
  | [] => []
  | first :: rest =>
      if toLength dash ≤ 0 then []
      else
        let length (n : Nat) : Float32 := (Float.ofInt (max (toLength n) 0)).toFloat32
        (DashWalk.walk (length dash) (length gap) (.start first) first rest).finish

end BenchCharts.Canvas

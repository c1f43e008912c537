import BenchCharts.Geometry.Scale

/-!
Cutting a line at the edges of a panel. A segment inside a box is the part of it between two
parameters, found by narrowing the whole segment at one edge of the box after the other. The runs
of a line are its stretches inside the panel: points inside are kept as they are, and cut points
are interpolated along the scales of the axes.
-/
namespace BenchCharts.Geometry

section
variable {α : Type} [Quantity α]

/-- The parameters of a segment that satisfy `p * t ≤ q`, out of those between the bounds. -/
def narrow (bounds : α × α) (p q : α) : Option (α × α) :=
  if p == 0 then if q < 0 then none else some bounds
  else
    let t := q / p
    if p < 0 then
      if bounds.2 < t then none else some (Quantity.larger bounds.1 t, bounds.2)
    else if t < bounds.1 then none else some (bounds.1, Quantity.smaller bounds.2 t)

/-- The parameters of the part of the segment from `a` to `b` inside the box from `low` to
`high`. -/
def clipParameters (a b low high : α × α) : Option (α × α) := do
  let dx := b.1 - a.1
  let dy := b.2 - a.2
  let bounds ← narrow (0, 1) (-dx) (a.1 - low.1)
  let bounds ← narrow bounds dx (high.1 - a.1)
  let bounds ← narrow bounds (-dy) (a.2 - low.2)
  narrow bounds dy (high.2 - a.2)

/-- The point of a segment at a parameter. -/
def along (a b : α × α) (t : α) : α × α := (a.1 + t * (b.1 - a.1), a.2 + t * (b.2 - a.2))

/-- A line read so far: the closed runs, and the open run with its latest point first. -/
structure RunScan (β : Type) where
  closed : List (List β)
  current : List β

namespace RunScan
variable {β : Type}

def start : RunScan β := ⟨[], []⟩

/-- A run of fewer than two points is dropped. -/
def close (s : RunScan β) : RunScan β :=
  if 2 ≤ s.current.length then ⟨s.closed ++ [s.current.reverse], []⟩ else ⟨s.closed, []⟩

def push (s : RunScan β) (p : β) : RunScan β := { s with current := p :: s.current }

end RunScan

/-- One segment of a line. `position?` places a point in the plane of the box, and `value` leads
back from there. -/
def clipStep {β : Type} (position? : β → Option (α × α)) (value : α × α → β) (low high : α × α)
    (s : RunScan β) (segment : β × β) : RunScan β :=
  match position? segment.1, position? segment.2 with
  | some a, some b =>
      match clipParameters a b low high with
      | none => s.close
      | some (t0, t1) =>
          let s :=
            if 0 < t0 then s.close.push (value (along a b t0))
            else if s.current.isEmpty then s.close.push segment.1
            else s
          if t1 < 1 then (s.push (value (along a b t1))).close else s.push segment.2
  | _, _ => s.close

def clipRuns {β : Type} (position? : β → Option (α × α)) (value : α × α → β) (low high : α × α)
    (points : List β) : List (List β) :=
  ((points.zip points.tail).foldl (clipStep position? value low high) RunScan.start).close.closed

end

/-- What a panel shows, in data coordinates. -/
structure Window (α : Type) where
  x : AxisRange α
  xScale : Scale
  y : AxisRange α
  yScale : Scale

namespace Window
variable {α : Type} [Analytic α]

def contains (w : Window α) (p : α × α) : Bool := w.x.contains p.1 && w.y.contains p.2

def position? (w : Window α) (p : α × α) : Option (α × α) := do
  let x ← w.xScale.position? p.1
  let y ← w.yScale.position? p.2
  return (x, y)

def value (w : Window α) (p : α × α) : α × α := (w.xScale.value p.1, w.yScale.value p.2)

/-- The runs of the line through the points that lie inside the window. -/
def clipLine (w : Window α) (points : List (α × α)) : List (List (α × α)) :=
  match w.position? (w.x.min, w.y.min), w.position? (w.x.max, w.y.max) with
  | some low, some high => clipRuns w.position? w.value low high points
  | _, _ => []

end Window

theorem clipRuns_nil {α β : Type} [Quantity α] (position? : β → Option (α × α))
    (value : α × α → β) (low high : α × α) : clipRuns position? value low high [] = [] := rfl

end BenchCharts.Geometry

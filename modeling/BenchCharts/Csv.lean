import BenchCharts.Text.Blank

/-!
Tables of comma-separated cells. A record ends at a line feed or a carriage return, and breaks that
end no record are skipped. A cell that starts with a double quote runs to the quote that closes
it; a doubled quote inside stands for one. Cells are trimmed, and records may have any length.
-/
namespace BenchCharts.Csv

abbrev Cell := List Char

abbrev Record := List Cell

/-- Where in a record the next character falls. -/
inductive Place
  | recordStart
  | cellStart
  | plain
  | quoted
  /-- Right after a quote inside a quoted cell. -/
  | closing
  deriving DecidableEq, Repr

/-- What has been read: the records so far, the cells of the open record and the characters of the
open cell, each with the latest first. -/
structure State where
  place : Place
  records : List Record
  cells : List Cell
  cell : List Char

namespace State

def start : State := ⟨.recordStart, [], [], []⟩

def isBreak (c : Char) : Bool := c = '\n' || c = '\r'

def closeCell (s : State) : State :=
  { s with place := .cellStart, cells := Text.trim s.cell.reverse :: s.cells, cell := [] }

def closeRecord (s : State) : State :=
  let s := s.closeCell
  { s with place := .recordStart, records := s.cells.reverse :: s.records, cells := [] }

def push (s : State) (place : Place) (c : Char) : State :=
  { s with place, cell := c :: s.cell }

/-- A character of a cell that is not quoted, or no longer. -/
def plainStep (s : State) (c : Char) : State :=
  if isBreak c then s.closeRecord
  else if c = ',' then s.closeCell
  else s.push .plain c

def step (s : State) (c : Char) : State :=
  match s.place with
  | .recordStart =>
      if isBreak c then s
      else if c = '"' then { s with place := .quoted }
      else s.plainStep c
  | .cellStart => if c = '"' then { s with place := .quoted } else s.plainStep c
  | .plain => s.plainStep c
  | .quoted => if c = '"' then { s with place := .closing } else s.push .quoted c
  | .closing => if c = '"' then s.push .quoted '"' else s.plainStep c

def finish (s : State) : List Record :=
  match s.place with
  | .recordStart => s.records.reverse
  | _ => s.closeRecord.records.reverse

end State

def read (cs : List Char) : List Record := (cs.foldl State.step State.start).finish

/-- The records of a text; a byte order mark at its start is no part of it. -/
def records (text : String) : List Record :=
  match text.toList with
  | '\ufeff' :: rest => read rest
  | cs => read cs

theorem read_nil : read [] = [] := rfl

theorem foldl_step_append (s : State) (left right : List Char) :
    (left ++ right).foldl State.step s = right.foldl State.step (left.foldl State.step s) :=
  List.foldl_append ..

end BenchCharts.Csv

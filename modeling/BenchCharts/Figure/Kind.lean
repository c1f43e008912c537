/-!
The kinds of figures, in the order in which all of them are drawn.
-/
namespace BenchCharts.Figure

inductive Kind
  | insertOnly
  | sqliteInsert
  | ycsb
  | rawWrite
  | rawRead
  | recovery
  deriving DecidableEq, Repr, Inhabited

namespace Kind

def named : List (String × Kind) :=
  [("insert-only", insertOnly), ("sqlite-insert", sqliteInsert), ("ycsb", ycsb),
    ("raw-write", rawWrite), ("raw-read", rawRead), ("recovery", recovery)]

def all : List Kind := named.map (·.2)

def name : Kind → String
  | insertOnly => "insert-only"
  | sqliteInsert => "sqlite-insert"
  | ycsb => "ycsb"
  | rawWrite => "raw-write"
  | rawRead => "raw-read"
  | recovery => "recovery"

/-- The name that marks the data of a figure in a document. -/
def tag : Kind → String
  | insertOnly => "insert_only"
  | sqliteInsert => "sqlite_insert"
  | ycsb => "ycsb"
  | rawWrite => "raw_write"
  | rawRead => "raw_read"
  | recovery => "recovery"

def ofName? (s : String) : Option Kind := named.lookup s

theorem ofName?_name (k : Kind) : ofName? k.name = some k := by cases k <;> rfl

theorem mem_all (k : Kind) : k ∈ all := by cases k <;> decide

end Kind

end BenchCharts.Figure

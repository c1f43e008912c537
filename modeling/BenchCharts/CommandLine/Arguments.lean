/-!
Arguments of a command. A command knows switches, options with a value, positional values and
commands below it, and reads its arguments up to the name of such a command; what follows belongs
to that one. Two hyphens alone end the switches, and short switches may share one hyphen. The
first argument that fits nowhere ends the reading, while a switch given twice or a missing value
is found at its end.
-/
namespace BenchCharts.CommandLine

/-- A name of a switch, with the letter that stands for it. -/
structure Switch where
  name : String
  letter : Char
  deriving DecidableEq, Repr

/-- What a command takes. Every command also has a switch that asks for help. -/
structure Grammar where
  switches : List Switch
  options : List String
  values : List String
  commands : List String
  deriving Repr

inductive UsageError
  /-- Help was asked for. -/
  | help
  | unexpected (argument : String)
  | repeated (name : String)
  | missing (name : String)
  | invalid (name value : String)
  deriving DecidableEq, Repr

/-- Arguments read so far, each list with its latest entry first. -/
structure Reading where
  switches : List String
  options : List (String × Option String)
  values : List String
  deriving Repr

namespace Reading

def empty : Reading := ⟨[], [], []⟩

def has (r : Reading) (switch : String) : Bool := r.switches.contains switch

def option? (r : Reading) (name : String) : Option String := (r.options.lookup name).join

end Reading

/-- Where a reading stands: whether only values may follow, and the option whose value is next. -/
structure Position where
  onlyValues : Bool
  awaiting : Option String
  deriving Repr

def Position.start : Position := ⟨false, none⟩

/-- The name before an equals sign, and the value after it. -/
def splitValue (cs : List Char) : String × Option String :=
  match cs.dropWhile (· != '=') with
  | [] => (String.ofList cs, none)
  | _ :: value => (String.ofList (cs.takeWhile (· != '=')), some (String.ofList value))

namespace Grammar

/-- A name behind two hyphens, with the value behind an equals sign. -/
def readLong (g : Grammar) (r : Reading) (argument : String) (cs : List Char) :
    Except UsageError (Reading × Position) :=
  let (name, value) := splitValue cs
  if g.options.contains name then
    match value with
    | some _ => .ok ({ r with options := (name, value) :: r.options }, .start)
    | none => .ok ({ r with options := (name, none) :: r.options }, ⟨false, some name⟩)
  else if value.isSome then .error (.unexpected argument)
  else if g.switches.any (·.name = name) then
    .ok ({ r with switches := name :: r.switches }, .start)
  else if name = "help" then .error .help
  else .error (.unexpected argument)

/-- Letters behind one hyphen. -/
def readShort (g : Grammar) (r : Reading) : List Char → Except UsageError Reading
  | [] => .ok r
  | c :: rest =>
      match g.switches.find? (·.letter = c) with
      | some s => readShort g { r with switches := s.name :: r.switches } rest
      | none =>
          if c = 'h' then .error .help else .error (.unexpected (String.ofList ['-', c]))

/-- A value of the option that awaits one, or else the next positional value. -/
def readPlain (g : Grammar) (r : Reading) (awaiting : Option String) (argument : String) :
    Except UsageError Reading :=
  match awaiting with
  | some name => .ok { r with options := (name, some argument) :: r.options.tail }
  | none =>
      if r.values.length < g.values.length then .ok { r with values := argument :: r.values }
      else .error (.unexpected argument)

/-- Reads arguments up to the name of a command, which is given with all that follows it. -/
def scan (g : Grammar) (r : Reading) (p : Position) :
    List String → Except UsageError (Reading × Option (String × List String))
  | [] => .ok (r, none)
  | argument :: rest => do
      if p.onlyValues then scan g (← g.readPlain r none argument) p rest
      else if p.awaiting.isNone && g.commands.contains argument then
        return (r, some (argument, rest))
      else
        match argument.toList with
        | ['-', '-'] => scan g r ⟨true, none⟩ rest
        | '-' :: '-' :: cs =>
            let (r, p) ← g.readLong r argument cs
            scan g r p rest
        | '-' :: c :: cs => scan g (← g.readShort r (c :: cs)) .start rest
        | _ => scan g (← g.readPlain r p.awaiting argument) .start rest

/-- The first name that occurs again behind it. -/
def firstRepeated : List String → Option String
  | [] => none
  | name :: rest => if rest.contains name then some name else firstRepeated rest

/-- What is found when all arguments have been read. -/
def check (g : Grammar) (r : Reading) : Except UsageError Unit :=
  match firstRepeated (r.switches.reverse ++ r.options.reverse.map (·.1)) with
  | some name => .error (.repeated name)
  | none =>
      match r.options.find? (·.2.isNone), g.values[r.values.length]? with
      | some (name, _), _ => .error (.missing name)
      | none, some name => .error (.missing name)
      | none, none => .ok ()

end Grammar

/-- The switches that every command knows. -/
def reportSwitches : List Switch := [⟨"verbose", 'v'⟩, ⟨"debug", 'd'⟩, ⟨"quiet", 'q'⟩]

end BenchCharts.CommandLine

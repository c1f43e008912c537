import BenchCharts.Decimal.Numeral
import BenchCharts.SortedMap

/-!
Reading values out of documents. A format says what each of its nodes may stand for; records, lists
and choices are then read in the same way from every format. A record is read in the order of the
document, so of several faults the first one is reported; fields that are still missing at its end
are reported in the order of the record.
-/
namespace BenchCharts.Format

inductive DecodeError
  /-- The text is malformed, or a node is of another kind than expected. -/
  | invalid
  | missingField (name : String)
  | unknownField (name : String)
  | duplicateField (name : String)
  | unknownVariant (name : String)
  /-- The value breaks a rule of its own. -/
  | refused (reason : String)
  deriving DecidableEq, Repr

def DecodeError.message : DecodeError → String
  | invalid => "invalid"
  | missingField name => "missing field \x60" ++ name ++ "\x60"
  | unknownField name => "unknown field \x60" ++ name ++ "\x60"
  | duplicateField name => "duplicate field \x60" ++ name ++ "\x60"
  | unknownVariant name => "unknown variant \x60" ++ name ++ "\x60"
  | refused reason => reason

abbrev Decoded (α : Type) := Except DecodeError α

/-- What a node holds as a record: members with their names, or the fields in their order. -/
inductive Members (ν : Type)
  | named (members : List (ν × ν))
  | ordered (items : List ν)

/-- The ways in which a format lets its nodes be read. -/
class Source (ν : Type) where
  text : ν → Decoded String
  /-- A whole number up to a bound. -/
  natural : Nat → ν → Decoded Nat
  real : ν → Decoded Float
  /-- The node stands for an optional value that is not there. -/
  isNull : ν → Decoded Bool
  items : ν → Decoded (List ν)
  members : ν → Decoded (Members ν)
  /-- The name of one of several choices, and whether anything is wrong with what follows it. -/
  choice : ν → Decoded (String × Decoded Unit)
  /-- A list may not be longer than the tuple that it is read as. -/
  exactLength : ν → Bool
  /-- Passes over a node whose content does not matter. -/
  ignore : ν → Decoded Unit

section
variable {ν σ α β : Type}

/-- A field of a record. Reading it changes the record read so far. -/
structure Field (ν σ : Type) where
  name : String
  required : Bool
  read : ν → σ → Decoded σ

def Field.of (name : String) (read : ν → Decoded α) (set : σ → α → σ) : Field ν σ :=
  ⟨name, true, fun node record => (read node).map (set record)⟩

/-- A field that keeps its value where it is left out. -/
def Field.optional (name : String) (read : ν → Decoded α) (set : σ → α → σ) : Field ν σ :=
  { Field.of name read set with required := false }

/-- What becomes of members that are no fields. -/
inductive Unknown
  | refuse
  | ignore
  deriving DecidableEq, Repr

/-- The first field that is required but was not seen. -/
def missing? (fields : List (Field ν σ)) (seen : List String) : Option String :=
  (fields.find? fun f => f.required && !seen.contains f.name).map (·.name)

def readNamed [Source ν] (fields : List (Field ν σ)) (unknown : Unknown) (seen : List String)
    (record : σ) : List (ν × ν) → Decoded σ
  | [] =>
      match missing? fields seen with
      | some name => .error (.missingField name)
      | none => .ok record
  | (key, value) :: rest =>
      match Source.text key with
      | .error e => .error e
      | .ok name =>
          match fields.find? fun f => f.name = name with
          | none =>
              if unknown = .refuse then .error (.unknownField name)
              else
                match Source.ignore value with
                | .error e => .error e
                | .ok _ => readNamed fields unknown seen record rest
          | some f =>
              if seen.contains name then .error (.duplicateField name)
              else
                match f.read value record with
                | .error e => .error e
                | .ok record => readNamed fields unknown (name :: seen) record rest

def readOrdered (record : σ) : List (Field ν σ) → List ν → Decoded σ
  | [], _ => .ok record
  | f :: fields, [] => if f.required then .error .invalid else readOrdered record fields []
  | f :: fields, item :: rest =>
      match f.read item record with
      | .error e => .error e
      | .ok record => readOrdered record fields rest

/-- A record; `start` holds the values of the fields that may be left out. -/
def readRecord [Source ν] (fields : List (Field ν σ)) (unknown : Unknown) (start : σ) (node : ν) :
    Decoded σ :=
  match Source.members node with
  | .error e => .error e
  | .ok (.named members) => readNamed fields unknown [] start members
  | .ok (.ordered items) => readOrdered start fields items

def readList [Source ν] (read : ν → Decoded α) (node : ν) : Decoded (List α) := do
  (← Source.items node).mapM read

def readEntries [Source ν] (read : ν → Decoded α) : List (ν × ν) → Decoded (List (String × α))
  | [] => .ok []
  | (key, value) :: rest => do
      let name ← Source.text key
      let content ← read value
      return (name, content) :: (← readEntries read rest)

/-- A map from texts. The last one of several members with the same name counts. -/
def readMap [Source ν] (read : ν → Decoded α) (node : ν) : Decoded (SortedMap α) := do
  match ← Source.members node with
  | .named members => return .ofList (← readEntries read members)
  | .ordered _ => .error .invalid

def readOptional [Source ν] (read : ν → Decoded α) (node : ν) : Decoded (Option α) := do
  if ← Source.isNull node then return none else return some (← read node)

def readPair [Source ν] (first : ν → Decoded α) (second : ν → Decoded β) (node : ν) :
    Decoded (α × β) := do
  match ← Source.items node with
  | [] => .error .invalid
  | a :: rest =>
      let a ← first a
      match rest with
      | [] => .error .invalid
      | b :: rest =>
          let b ← second b
          if Source.exactLength node && !rest.isEmpty then .error .invalid else return (a, b)

/-- One of several named values. -/
def readChoice [Source ν] (choices : List (String × α)) (node : ν) : Decoded α := do
  let (name, content) ← Source.choice node
  match choices.lookup name with
  | none => .error (.unknownVariant name)
  | some a => content.map fun _ => a

/-- A text that must have a meaning, with the message for one that has none. -/
def readMeaning [Source ν] (parse? : String → Option α) (message : String → String) (node : ν) :
    Decoded α := do
  let s ← Source.text node
  match parse? s with
  | some a => return a
  | none => .error (.refused (message s))

/-- A number of 32 bits. -/
def readHalfWord [Source ν] : ν → Decoded Nat := Source.natural Decimal.maxHalfWord

/-- A number of 64 bits. -/
def readWord [Source ν] : ν → Decoded Nat := Source.natural Decimal.maxWord

end

end BenchCharts.Format

import BenchCharts.Config.Sections
import BenchCharts.Files.Tree
import BenchCharts.Json.Reading
import BenchCharts.Json.Writing
import BenchCharts.Yaml.Reading
import BenchCharts.Yaml.Writing

/-!
Files that hold one value in either of two formats, told apart by their extension. A value whose
location is not given is looked for beside its default location under each of the extensions:
exactly one such file is read, several are an error, and without any the caller decides.
-/
namespace BenchCharts.Config

open Files (Path Tree)
open Format (DecodeError Decoded Value)

inductive FileFormat
  | json5
  | yaml
  deriving DecidableEq, Repr

namespace FileFormat

def name : FileFormat → String
  | json5 => "JSON5"
  | yaml => "YAML"

/-- The name shown in the list of formats. -/
def shown : FileFormat → String
  | json5 => "Json5"
  | yaml => "Yaml"

/-- The known extensions in the order in which they are tried. -/
def extensions : List (String × FileFormat) :=
  [("json5", json5), ("json", json5), ("yml", yaml), ("yaml", yaml)]

end FileFormat

/-- How values of a type are read and written. -/
structure Codec (α : Type) where
  readYaml : Yaml.Cell → Decoded α
  readJson : Json.Node → Decoded α
  write : α → Value

def figuresCodec : Codec Figures := ⟨readFigures, readFigures, writeFigures⟩

/-- A text that is no value in the format it should have. -/
structure FormatError where
  format : FileFormat
  cause : DecodeError
  deriving DecidableEq, Repr

def FormatError.message (e : FormatError) : String :=
  "decoding " ++ e.format.name ++ ": " ++ e.cause.message

inductive FileError
  | noExtension (path : Path)
  | unknownExtension (extension : String) (path : Path)
  | unreadable (path : Path)
  | undecodable (path : Path) (cause : FormatError)
  | ambiguous (paths : List Path)
  | noFileName (base : Path)
  | unwritable (path : Path)
  deriving DecidableEq, Repr

def FileError.message : FileError → String
  | noExtension path =>
      "given file path does not have an extension for determining the file type: " ++
        Text.quoted path.text
  | unknownExtension extension path =>
      "given file path does have an unknown extension " ++ Text.quoted extension ++ ": " ++
        Text.quoted path.text
  | unreadable path => "loading config file from " ++ Text.quoted path.text
  | undecodable path cause => "config file " ++ Text.quoted path.text ++ ": " ++ cause.message
  | ambiguous paths =>
      "ambiguous config location, found all of [" ++
        ", ".intercalate (paths.map fun p => Text.quoted p.text) ++ "]"
  | noFileName base => "config path has no file name: " ++ Text.quoted base.text
  | unwritable path => "writing config file to " ++ Text.quoted path.text

def FileFormat.ofPath (path : Path) : Except FileError FileFormat :=
  match path.extension? with
  | none => .error (.noExtension path)
  | some extension =>
      match extensions.lookup extension with
      | some format => .ok format
      | none => .error (.unknownExtension extension path)

namespace Codec
variable {α : Type}

def decode (codec : Codec α) (format : FileFormat) (text : String) : Except FormatError α :=
  let decoded := match format with
    | .json5 => Json.decode codec.readJson text
    | .yaml => Yaml.decode codec.readYaml text
  decoded.mapError fun cause => ⟨format, cause⟩

def encode (codec : Codec α) (format : FileFormat) (a : α) : String :=
  match format with
  | .json5 => Json.write (codec.write a)
  | .yaml => Yaml.write (codec.write a)

def loadAs (codec : Codec α) (t : Tree) (format : FileFormat) (path : Path) :
    Except FileError α :=
  match t.read path with
  | .error _ => .error (.unreadable path)
  | .ok text => (codec.decode format text).mapError fun cause => .undecodable path cause

/-- Loads a file whose extension tells its format. -/
def loadFrom (codec : Codec α) (t : Tree) (path : Path) : Except FileError α := do
  codec.loadAs t (← FileFormat.ofPath path) path

def saveAs (codec : Codec α) (t : Tree) (format : FileFormat) (path : Path) (a : α) :
    Except FileError Tree :=
  match t.write path (codec.encode format a) with
  | .error _ => .error (.unwritable path)
  | .ok t => .ok t

def saveTo (codec : Codec α) (t : Tree) (path : Path) (a : α) : Except FileError Tree := do
  codec.saveAs t (← FileFormat.ofPath path) path a

end Codec

/-- The path with an extension added to its last name. -/
def withExtension (base : Path) (extension : String) : Except FileError Path :=
  match base.fileName? with
  | none => .error (.noFileName base)
  | some name => .ok (base.withFileName (name ++ "." ++ extension))

/-- The files beside a base that are there, with their formats. -/
def candidates (t : Tree) (base : Path) : Except FileError (List (Path × FileFormat)) := do
  let all ← FileFormat.extensions.mapM fun (extension, format) => do
    return (← withExtension base extension, format)
  return all.filter fun (path, _) => t.isPresent path

/-- A value that was loaded, or a description of where it was looked for. -/
inductive Lookup (α : Type)
  | found (value : α)
  | nowhere (tried : String)
  deriving Repr

/-- Where no location is known. -/
def triedNothing : String := "no config path given, and no default location"

/-- Where no file was found beside a base. -/
def triedBeside (base : Path) : String :=
  "no file " ++ Text.quoted base.text ++ " with any of the extensions " ++
    ", ".intercalate (FileFormat.extensions.map (·.1))

/-- Loads from the path if there is one, and else from beside the base. -/
def Codec.load {α : Type} (codec : Codec α) (t : Tree) (base path : Option Path) :
    Except FileError (Lookup α) :=
  match path, base with
  | some path, _ => (codec.loadFrom t path).map .found
  | none, none => .ok (.nowhere triedNothing)
  | none, some base => do
      match ← candidates t base with
      | [] => return .nowhere (triedBeside base)
      | [(path, format)] => return .found (← codec.loadAs t format path)
      | several => .error (.ambiguous (several.map (·.1)))

/-- Where the configuration of the figures is looked for. -/
def figuresBase : Path := ⟨"bench-figures"⟩

theorem Codec.load_path {α : Type} (codec : Codec α) (t : Tree) (base : Option Path) (path : Path) :
    codec.load t base (some path) = (codec.loadFrom t path).map .found := rfl

end BenchCharts.Config

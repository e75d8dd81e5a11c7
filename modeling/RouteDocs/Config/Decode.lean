import RouteDocs.Config.Settings
import RouteDocs.Files.FileTree
import RouteDocs.Text.Lines
import RouteDocs.Yaml.Evaluation

/-!
Reading a configuration: the value of a text, which holds names with values, and the configuration that these settings
give. How a text is read and how settings are checked is left to a `Decoder`, and the one that comes with the program is
`Decoder.own`.

Main definitions: `Config.ofValue`, `Config.ofFile`.
-/

namespace RouteDocs

open Files Yaml

inductive ConfigError where
  | os (e : OsError)
  /-- the file is not a text -/
  | undecodable
  | yaml (e : Fault)
  /-- the file does not hold names with values -/
  | notSettings
  /-- a setting has a value of the wrong kind -/
  | invalid
deriving DecidableEq

def ConfigError.message : ConfigError → String
  | .os e => e.message
  | .undecodable => "not valid UTF-8"
  | .yaml e => e.message
  | .notSettings => "not a mapping of names to values"
  | .invalid => "a setting has a value of the wrong kind"

namespace Config

/-- what texts and settings are read with -/
structure Decoder where
  /-- the value of a text. The text may be malformed; any other fault says that a value in it can not be made. -/
  load : List Char → Except Fault Value
  /-- the configuration of settings, if each has a value of the right kind -/
  validate : List (String × Value) → Option Config

def Decoder.own : Decoder := ⟨Value.ofText, ofSettings?⟩

def settings? : Value → Option (List (String × Value))
  | .map entries => entries.mapM fun e => (name? e.1).map (·, e.2)
  | _ => none

/-- a configuration from a value; an empty one says nothing -/
def ofValue (v : Value) (d : Decoder := .own) : Except ConfigError Config :=
  if v.isEmpty then .ok default
  else match settings? v with
    | none => .error .notSettings
    | some settings => match d.validate settings with
      | none => .error .invalid
      | some config => .ok config

/-- the configuration in a file, whose lines may end in any way -/
def ofFile (files : FileTree) (path : Path) (d : Decoder := .own) : Except ConfigError Config :=
  match files.read path with
  | .error e => .error (.os e)
  | .ok bytes => match Text.Utf8.decode bytes with
    | .error _ => .error .undecodable
    | .ok text => match d.load (Text.unifyNewlines text) with
      | .error e => .error (.yaml e)
      | .ok v => ofValue v d

end Config

end RouteDocs

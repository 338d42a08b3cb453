import Reroute.Arguments
import Reroute.Duration
import Reroute.Files
import Reroute.Json
import Reroute.Text.Quoted
import Reroute.Yaml.Resolution

/-!
The settings of a run.  A settings file, in JSON or YAML by its extension, gives what the
command line does not, and defaults give the rest.  A file may name each setting once and
nothing else; in place of names it may list the values in their order.
-/
namespace Reroute

/-- What a settings file says. -/
structure SettingsFile where
  listenPort : Option Nat := none
  rulesFile : Option Text := none
  documentRoot : Option Text := none
  watchInterval : Option Duration := none
deriving Repr, DecidableEq

/-- The settings of a run. -/
structure Settings where
  rulesFile : Text
  watchInterval : Duration
  port : Nat
  documentRoot : Option Text
deriving Repr, DecidableEq

/-- The formats of settings files. -/
inductive SettingsFormat where
  | json
  | yaml
deriving Repr, DecidableEq

/-- Why there are no settings. -/
inductive SettingsError where
  | unreadable (error : ReadError)
  | unknownExtension (path : Text)
  | malformed (format : SettingsFormat)
  | zeroInterval
deriving Repr, DecidableEq

namespace SettingsError

/-- The wording of an error, where it is ours to choose. -/
def message? : SettingsError → Option Text
  | .unknownExtension path => some ("invalid file extension of ".toList ++ Text.quoted path)
  | .zeroInterval => some "watch_interval must be greater than zero".toList
  | _ => none

end SettingsError

namespace SettingsFile

/-- What a format has to tell about its values: whether one is a null, and what number or
text it is otherwise.  No answer means that it cannot be one. -/
structure Reader (α : Type) where
  isNull? : α → Option Bool
  natural? : α → Option Nat
  text? : α → Option Text

variable {α : Type}

/-- Read a value that may be a null. -/
def Reader.optional? {β : Type} (reader : Reader α) (read : α → Option β) (value : α) :
    Option (Option β) := do
  if ← reader.isNull? value then pure none else (read value).map some

/-- Read the value of a port. -/
def Reader.port? (reader : Reader α) (value : α) : Option Nat :=
  (reader.natural? value).filter fun n => n ≤ Numeral.maxWord16

/-- Read the value of a span of time. -/
def Reader.duration? (reader : Reader α) (value : α) : Option Duration :=
  (reader.text? value).bind Duration.parse?

/-- The names of the settings, in their order. -/
def names : List Text :=
  ["listen_port".toList, "rules_file".toList, "document_root".toList, "watch_interval".toList]

/-- Take the value of one setting. -/
def set? (reader : Reader α) (file : SettingsFile) (name : Text) (value : α) :
    Option SettingsFile :=
  match names.idxOf? name with
  | some 0 => do
      pure { file with listenPort := ← reader.optional? reader.port? value }
  | some 1 => do
      pure { file with rulesFile := ← reader.optional? reader.text? value }
  | some 2 => do
      pure { file with documentRoot := ← reader.optional? reader.text? value }
  | some 3 => do
      pure { file with watchInterval := ← reader.optional? reader.duration? value }
  | _ => none

/-- Take settings one after the other. -/
def setAll? (reader : Reader α) (entries : List (Text × α)) : Option SettingsFile :=
  entries.foldlM (fun file (name, value) => file.set? reader name value) {}

/-- The settings of a mapping, where no name may come twice. -/
def ofEntries? (reader : Reader α) (entries : List (Text × α)) : Option SettingsFile :=
  if (entries.map Prod.fst).Nodup then setAll? reader entries else none

/-- The settings of a list of values in the order of the names.  The last may be left out. -/
def ofValues? (reader : Reader α) (values : List α) : Option SettingsFile :=
  if values.length + 1 = names.length ∨ values.length = names.length then
    setAll? reader (names.zip values)
  else none

/-- What JSON values are. -/
def jsonReader : Reader Json.Value where
  isNull?
    | .null => some true
    | _ => some false
  natural?
    | .number literal => Numeral.digits? Numeral.maxWord64 literal
    | _ => none
  text?
    | .string value => some value
    | _ => none

/-- What nodes of YAML are. -/
def yamlReader : Reader Yaml.Node where
  isNull?
    | .scalar value => value.isNull?
    | _ => some false
  natural?
    | .scalar value => value.natural? Numeral.maxWord64
    | _ => none
  text?
    | .scalar value => some value.text
    | _ => none

/-- Read a settings file in JSON. -/
def ofJson? (text : Text) : Option SettingsFile := do
  match ← Json.parse? text with
  | .object members => ofEntries? jsonReader members
  | .array elements => ofValues? jsonReader elements
  | _ => none

/-- Read a settings file in YAML. -/
def ofYaml? (text : Text) : Option SettingsFile := do
  match ← Yaml.Node.parse? text with
  | .mapping entries => do
      let named ← entries.mapM fun (key, value) =>
        (yamlReader.text? key).map fun name => (name, value)
      ofEntries? yamlReader named
  | .sequence items => ofValues? yamlReader items
  | _ => none

/-- Read a settings file. -/
def parse? : SettingsFormat → Text → Option SettingsFile
  | .json, text => ofJson? text
  | .yaml, text => ofYaml? text

/-- The format that the extension of a path stands for. -/
def format? (path : Text) : Option SettingsFormat :=
  [("json".toList, .json), ("yaml".toList, .yaml), ("yml".toList, .yaml)].lookup
    ((Path.extension? path).getD [])

/-- Load a settings file, given the way to read files. -/
def load (read : Text → Except ReadError (List UInt8)) (path : Text) :
    Except SettingsError SettingsFile := do
  let text ← (textOf (read path)).mapError .unreadable
  let some format := format? path | throw (.unknownExtension path)
  let some file := parse? format text | throw (.malformed format)
  pure file

/-- What the command line says goes before what the file says. -/
def overriddenBy (file : SettingsFile) (arguments : Arguments) : SettingsFile :=
  { file with
    listenPort := arguments.port.or file.listenPort
    rulesFile := arguments.rulesFile.or file.rulesFile
    documentRoot := arguments.documentRoot.or file.documentRoot }

end SettingsFile

namespace Settings

/-- The port to listen on. -/
def defaultPort : Nat := 8678

/-- The rules file to read. -/
def defaultRulesFile : Text := "config.txt".toList

/-- The time between two looks at the rules file. -/
def defaultWatchInterval : Duration := .ofSeconds 1

/-- Complete settings by the defaults.  The rules file has to be watched at intervals. -/
def ofFile (file : SettingsFile) : Except SettingsError Settings :=
  let interval := file.watchInterval.getD defaultWatchInterval
  if interval.isZero then .error .zeroInterval
  else
    .ok
      { rulesFile := file.rulesFile.getD defaultRulesFile
        watchInterval := interval
        port := file.listenPort.getD defaultPort
        documentRoot := file.documentRoot }

/-- The settings that a command line asks for, given the way to read files. -/
def load (read : Text → Except ReadError (List UInt8)) (arguments : Arguments) :
    Except SettingsError Settings := do
  let file ← match arguments.config with
    | some path => SettingsFile.load read path
    | none => pure {}
  ofFile (file.overriddenBy arguments)

end Settings

end Reroute

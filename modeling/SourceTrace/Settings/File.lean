import SourceTrace.Settings.Basic
import SourceTrace.Toml.Parser

/-!
# Settings files

A settings file is a TOML document; its table `global` holds the settings. In a key, a minus sign
and an underscore mean the same. Unknown keys are ignored.
-/

namespace SourceTrace

/-- Why the content of a settings file is refused. -/
inductive SettingsFault where
  /-- It is no TOML document, or its settings are no table. -/
  | document
  /-- A setting has a value of the wrong type. -/
  | illTyped (key expected : String) (value : Toml.Value)

/-- The wording of a fault. What follows the first words about a document depends on its reader. -/
def SettingsFault.message : SettingsFault → String
  | .document => "TOML parse error: malformed document"
  | .illTyped key expected value =>
    "Invalid value for " ++ key ++ ": Expected " ++ expected ++ ", got " ++ value.describe

/-- Why settings cannot be loaded from a file. -/
inductive SettingsError where
  /-- The file cannot be read. -/
  | unreadable (path : String) (fault : ReadFault)
  /-- The content of the file is refused. -/
  | refused (path : String) (fault : SettingsFault)

/-- The wording of an error. -/
def SettingsError.message : SettingsError → String
  | .unreadable path fault =>
    "Failed to read config file: " ++ Text.quote path ++ ": " ++ fault.message
  | .refused path fault =>
    "Failed to parse config file: " ++ Text.quote path ++ ": " ++ fault.message

namespace Settings

/-- The key of a setting as it is known here. -/
def normalKey (key : String) : String :=
  key.map fun c => if c = '-' then '_' else c

/-- A value that must be a text. -/
def textValue (key : String) : Toml.Value → Except SettingsFault String
  | .string text => .ok text
  | value => .error (.illTyped key "string" value)

/-- A value that must be a truth value. -/
def boolValue (key : String) : Toml.Value → Except SettingsFault Bool
  | .boolean value => .ok value
  | value => .error (.illTyped key "bool" value)

/-- A value that must be a small number. -/
def byteValue (key : String) : Toml.Value → Except SettingsFault UInt8
  | .integer number =>
    if 0 ≤ number ∧ number < 256 then .ok (UInt8.ofNat number.toNat)
    else .error (.illTyped key "u8" (.integer number))
  | value => .error (.illTyped key "u8" value)

/-- What an entry of the table asks for. -/
inductive Change where
  /-- The path of the compiler output is set. -/
  | compilerOutput (path : String)
  /-- The name of the contract is set. -/
  | contract (name : String)
  /-- The directory of the source files is set. -/
  | sourcesDir (path : String)
  /-- Literal code is switched off or on. -/
  | noLiteral (isOn : Bool)
  /-- JSON reports are switched on or off. -/
  | json (isOn : Bool)
  /-- Explanations are switched on or off. -/
  | explain (isOn : Bool)
  /-- The number of verbosity flags is set. -/
  | verbose (count : UInt8)
  /-- Terminal styles are switched off or on. -/
  | noColor (isOn : Bool)
  /-- The least compiler version is set. -/
  | minimumVersion (version : String)
  /-- The key is unknown, and nothing changes. -/
  | ignored
  deriving DecidableEq, Repr

/-- The change that an entry of the table asks for. -/
def changeOf (entry : String × Toml.Value) : Except SettingsFault Change :=
  let key := normalKey entry.1
  let value := entry.2
  if key = "compiler_output" then (textValue key value).map .compilerOutput
  else if key = "contract" then (textValue key value).map .contract
  else if key = "sources_dir" then (textValue key value).map .sourcesDir
  else if key = "no_literal" then (boolValue key value).map .noLiteral
  else if key = "json" then (boolValue key value).map .json
  else if key = "explain" then (boolValue key value).map .explain
  else if key = "verbose" then (byteValue key value).map .verbose
  else if key = "no_color" then (boolValue key value).map .noColor
  else if key = "min_compiler_version" then (textValue key value).map .minimumVersion
  else .ok .ignored

/-- Settings after a change. -/
def apply (settings : Settings) : Change → Settings
  | .compilerOutput path => { settings with compilerOutput := some path }
  | .contract name => { settings with contract := name }
  | .sourcesDir path => { settings with sourcesDir := some path }
  | .noLiteral isOn => { settings with noLiteral := isOn }
  | .json isOn => { settings with json := isOn }
  | .explain isOn => { settings with explain := isOn }
  | .verbose count => { settings with verbose := count }
  | .noColor isOn => { settings with noColor := isOn }
  | .minimumVersion version => { settings with minimumVersion := version }
  | .ignored => settings

/-- Settings with one entry of the table taken up. -/
def takeEntry (settings : Settings) (entry : String × Toml.Value) :
    Except SettingsFault Settings :=
  (changeOf entry).map settings.apply

/-- The settings of a table, whose entries are taken up in turn. -/
def ofEntries (entries : List (String × Toml.Value)) : Except SettingsFault Settings :=
  entries.foldlM takeEntry {}

/-- The settings of a document. A date in place of the table sets nothing. -/
def ofToml (text : String) : Except SettingsFault Settings :=
  match Toml.parse? text with
  | none => .error .document
  | some root =>
    match root.lookup "global" with
    | none => .ok {}
    | some (.table entries) => ofEntries entries
    | some (.moment _) => .ok {}
    | some _ => .error .document

/-- The settings of a file. -/
def ofFile (files : Files) (path : String) : Except SettingsError Settings :=
  match (files path).readText with
  | .error fault => .error (.unreadable path fault)
  | .ok text =>
    match ofToml text with
    | .error fault => .error (.refused path fault)
    | .ok settings => .ok settings

/-- Settings laid over those of the settings file, if there is one. -/
def withFile (files : Files) (given : Settings) : Except SettingsError Settings :=
  match given.filePath? files with
  | none => .ok given
  | some path =>
    match ofFile files path with
    | .error error => .error error
    | .ok file => .ok (given.overlay file)

end Settings

end SourceTrace

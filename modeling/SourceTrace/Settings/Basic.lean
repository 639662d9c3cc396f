import SourceTrace.Files
import SourceTrace.Text.Quoted

/-!
# Settings

The settings of a run. Those given as arguments are laid over those of a settings file.
-/

namespace SourceTrace

/-- The name of the settings file that is looked for below the root. -/
def settingsFileName : String := "solmap.toml"

/-- The oldest compiler version that lookups are known to work with. -/
def defaultMinimumVersion : String := "0.5.17"

/-- The settings of a run. -/
structure Settings where
  /-- Addresses to look up. -/
  addresses : List String := []
  /-- Path of the compiler output. -/
  compilerOutput : Option String := none
  /-- Name of the contract. -/
  contract : String := ""
  /-- Directory of the source files. -/
  sourcesDir : Option String := none
  /-- Whether code is always made from the syntax tree. -/
  noLiteral : Bool := false
  /-- Whether reports are JSON. -/
  json : Bool := false
  /-- Whether lookups are explained. -/
  explain : Bool := false
  /-- Number of verbosity flags. -/
  verbose : UInt8 := 0
  /-- Whether terminal styles are off. -/
  noColor : Bool := false
  /-- Compiler version below which a warning is due. -/
  minimumVersion : String := defaultMinimumVersion
  /-- Directory that relative paths start from. -/
  root : String := "."
  /-- Path of the settings file. -/
  config : Option String := none
  deriving DecidableEq, Repr

/-- What a run cannot do without. -/
inductive MissingSetting where
  /-- There is no address. -/
  | addresses
  /-- There is no compiler output. -/
  | compilerOutput
  /-- There is no contract name. -/
  | contract
  deriving DecidableEq, Repr

/-- The wording of what is missing. -/
def MissingSetting.message : MissingSetting → String
  | .addresses => "No addresses given"
  | .compilerOutput =>
    "Missing --compiler-output (or compiler-output in " ++ settingsFileName ++ ")"
  | .contract => "Missing --contract (or contract in " ++ settingsFileName ++ ")"

namespace Settings

/-- Lays settings over those of a file. A text or number counts as given if it differs from its
default, and a switch if it is on; the root always comes from what is laid over. -/
def overlay (given file : Settings) : Settings where
  addresses := if given.addresses.isEmpty then file.addresses else given.addresses
  compilerOutput := given.compilerOutput.orElse fun _ => file.compilerOutput
  contract := if given.contract.isEmpty then file.contract else given.contract
  sourcesDir := given.sourcesDir.orElse fun _ => file.sourcesDir
  noLiteral := given.noLiteral || file.noLiteral
  json := given.json || file.json
  explain := given.explain || file.explain
  verbose := if given.verbose = 0 then file.verbose else given.verbose
  noColor := given.noColor || file.noColor
  minimumVersion :=
    if given.minimumVersion = defaultMinimumVersion then file.minimumVersion
    else given.minimumVersion
  root := given.root
  config := given.config.orElse fun _ => file.config

/-- Where a settings file is looked for when none is named. -/
def defaultFilePath (settings : Settings) : String :=
  Path.join settings.root settingsFileName

/-- The path of the settings file: the one that is named, else the one below the root if it
exists. -/
def filePath? (files : Files) (settings : Settings) : Option String :=
  match settings.config with
  | some path => some path
  | none =>
    if (files settings.defaultFilePath).exists then some settings.defaultFilePath else none

/-- What is missing for a run, if anything is; what comes first in this order is reported. -/
def missing? (settings : Settings) : Option MissingSetting :=
  if settings.addresses.isEmpty then some .addresses
  else if settings.compilerOutput.isNone then some .compilerOutput
  else if settings.contract.isEmpty then some .contract
  else none

/-- The path of the compiler output, from the root. -/
def outputPath? (settings : Settings) : Option String :=
  settings.compilerOutput.map (Path.join settings.root)

/-- The directory of the source files, from the root. -/
def sourcesPath? (settings : Settings) : Option String :=
  settings.sourcesDir.map (Path.join settings.root)

end Settings

end SourceTrace

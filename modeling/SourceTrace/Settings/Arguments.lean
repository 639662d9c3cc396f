import SourceTrace.Settings.Basic

/-!
# Command line arguments

Options have long names and some have letters; letters may be joined behind one dash. The value of
an option is attached to it or is the next argument. All other arguments are addresses, and so is
everything behind a double dash. An option with a value is taken up when the next option or address
comes, or at the end.
-/

namespace SourceTrace

/-- Why arguments are not taken up. -/
inductive ArgumentError where
  /-- There is no address. -/
  | missingAddress
  /-- An option lacks its value, or a path is empty. -/
  | invalidValue
  /-- There is no such option. -/
  | unknownOption
  /-- An option is repeated. -/
  | repeatedOption
  /-- A switch has a value. -/
  | unexpectedValue
  /-- The usage is asked for. -/
  | usage
  /-- The version is asked for. -/
  | version
  deriving DecidableEq, Repr

/-- The options that take a value. -/
inductive ValuedOption where
  /-- Path of the compiler output. -/
  | compilerOutput
  /-- Name of the contract. -/
  | contract
  /-- Directory of the source files. -/
  | sourcesDir
  /-- Least compiler version. -/
  | minimumVersion
  /-- Root directory. -/
  | root
  /-- Path of the settings file. -/
  | config
  deriving DecidableEq, Repr

/-- Whether the value of an option is a path, which may not be empty. -/
def ValuedOption.isPath : ValuedOption → Bool
  | .contract | .minimumVersion => false
  | _ => true

/-- The options that are on or off. -/
inductive Switch where
  /-- Code is always made from the syntax tree. -/
  | noLiteral
  /-- Reports are JSON. -/
  | json
  /-- Lookups are explained. -/
  | explain
  /-- Terminal styles are off. -/
  | noColor
  deriving DecidableEq, Repr

/-- An option of any kind. -/
inductive Flag where
  /-- An option with a value. -/
  | valued (option : ValuedOption)
  /-- An option that is on or off. -/
  | switch (switch : Switch)
  /-- More verbosity, which may be asked for repeatedly. -/
  | verbose
  /-- A request for the usage. -/
  | help
  /-- A request for the version. -/
  | version
  deriving DecidableEq, Repr

/-- Options by long name. -/
def Flag.names : List (String × Flag) := [
  ("compiler-output", .valued .compilerOutput), ("contract", .valued .contract),
  ("sources-dir", .valued .sourcesDir), ("no-literal", .switch .noLiteral),
  ("json", .switch .json), ("explain", .switch .explain), ("verbose", .verbose),
  ("no-color", .switch .noColor), ("min-compiler-version", .valued .minimumVersion),
  ("root", .valued .root), ("config", .valued .config), ("help", .help), ("version", .version)]

/-- Options by letter. -/
def Flag.letters : List (Char × Flag) := [
  ('o', .valued .compilerOutput), ('c', .valued .contract), ('v', .verbose), ('h', .help),
  ('V', .version)]

/-- Arguments while they are read. -/
structure Arguments where
  /-- Settings taken up so far. -/
  settings : Settings := {}
  /-- Options with values that were taken up. -/
  values : List ValuedOption := []
  /-- Switches that were taken up. -/
  switches : List Switch := []
  /-- An option that is still to be taken up, with its value if that was met. -/
  pending : Option (ValuedOption × Option String) := none
  /-- Whether a double dash was met. -/
  onlyAddresses : Bool := false
  deriving DecidableEq, Repr

namespace Arguments

/-- Settings with an option set to a value. -/
def setValue (settings : Settings) (value : String) : ValuedOption → Settings
  | .compilerOutput => { settings with compilerOutput := some value }
  | .contract => { settings with contract := value }
  | .sourcesDir => { settings with sourcesDir := some value }
  | .minimumVersion => { settings with minimumVersion := value }
  | .root => { settings with root := value }
  | .config => { settings with config := some value }

/-- Settings with a switch on. -/
def setSwitch (settings : Settings) : Switch → Settings
  | .noLiteral => { settings with noLiteral := true }
  | .json => { settings with json := true }
  | .explain => { settings with explain := true }
  | .noColor => { settings with noColor := true }

/-- Takes up an option with its value. A repetition is reported before an empty path. -/
def takeValue (arguments : Arguments) (option : ValuedOption) (value : String) :
    Except ArgumentError Arguments :=
  if arguments.values.contains option then .error .repeatedOption
  else if option.isPath && value.isEmpty then .error .invalidValue
  else .ok { arguments with
    settings := setValue arguments.settings value option
    values := option :: arguments.values
    pending := none }

/-- Takes up the pending option. -/
def settle (arguments : Arguments) : Except ArgumentError Arguments :=
  match arguments.pending with
  | none => .ok arguments
  | some (_, none) => .error .invalidValue
  | some (option, some value) => arguments.takeValue option value

/-- Takes up an address. -/
def takeAddress (arguments : Arguments) (address : String) : Except ArgumentError Arguments :=
  arguments.settle.map fun arguments => { arguments with
    settings := { arguments.settings with
      addresses := arguments.settings.addresses ++ [address] } }

/-- Takes up an option without a value. The number of verbosity flags stays below 256. -/
def takePlain (arguments : Arguments) : Flag → Except ArgumentError Arguments
  | .valued option => .ok { arguments with pending := some (option, none) }
  | .switch switch =>
    if arguments.switches.contains switch then .error .repeatedOption
    else .ok { arguments with
      settings := setSwitch arguments.settings switch
      switches := switch :: arguments.switches }
  | .verbose =>
    let count := arguments.settings.verbose
    .ok { arguments with
      settings := { arguments.settings with verbose := if count = 255 then 255 else count + 1 } }
  | .help => .error .usage
  | .version => .error .version

/-- Takes up an option with or without an attached value. -/
def takeOption (arguments : Arguments) (flag : Flag) (attached : Option String) :
    Except ArgumentError Arguments :=
  match flag, attached with
  | .valued option, some value =>
    arguments.settle.bind fun arguments => arguments.takeValue option value
  | flag, none => arguments.settle.bind fun arguments => arguments.takePlain flag
  | _, some _ => .error .unexpectedValue

/-- Takes up an option given by its long name, with what follows an equals sign as its value. -/
def takeLong (arguments : Arguments) (chars : List Char) : Except ArgumentError Arguments :=
  let name := String.ofList (chars.takeWhile (· != '='))
  let attached := match chars.dropWhile (· != '=') with
    | _ :: value => some (String.ofList value)
    | [] => none
  match Flag.names.lookup name with
  | none => .error .unknownOption
  | some flag => arguments.takeOption flag attached

/-- Takes up options given by letters. What follows the letter of an option with a value is that
value, after an equals sign if there is one. -/
def takeLetters (arguments : Arguments) : List Char → Except ArgumentError Arguments
  | [] => .ok arguments
  | letter :: rest =>
    match Flag.letters.lookup letter with
    | none => .error .unknownOption
    | some (.valued option) =>
      let attached := match rest with
        | [] => none
        | '=' :: value => some (String.ofList value)
        | value => some (String.ofList value)
      arguments.takeOption (.valued option) attached
    | some flag =>
      match arguments.takeOption flag none with
      | .error error => .error error
      | .ok arguments => arguments.takeLetters rest

/-- Takes up an argument that is no option: the value of a pending option or an address. -/
def takePlainText (arguments : Arguments) (text : String) : Except ArgumentError Arguments :=
  match arguments.pending with
  | some (option, none) => .ok { arguments with pending := some (option, some text) }
  | _ => arguments.takeAddress text

/-- Takes up one argument. A single dash is no option. -/
def take (arguments : Arguments) (argument : String) : Except ArgumentError Arguments :=
  if arguments.onlyAddresses then arguments.takeAddress argument
  else match argument.toList with
    | ['-', '-'] => .ok { arguments with onlyAddresses := true }
    | '-' :: '-' :: chars => arguments.takeLong chars
    | ['-'] => arguments.takePlainText argument
    | '-' :: letters => arguments.takeLetters letters
    | _ => arguments.takePlainText argument

/-- The settings given by arguments. -/
def parse (arguments : List String) : Except ArgumentError Settings :=
  match (arguments.foldlM take {}).bind settle with
  | .error error => .error error
  | .ok arguments =>
    if arguments.settings.addresses.isEmpty then .error .missingAddress
    else .ok arguments.settings

end Arguments

end SourceTrace

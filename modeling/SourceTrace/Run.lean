import SourceTrace.Compiler.Artifact
import SourceTrace.Compiler.Version
import SourceTrace.Lookup.Program
import SourceTrace.Report
import SourceTrace.Settings.Arguments
import SourceTrace.Settings.File

/-!
# Runs

A run loads the contract, looks up each address and reports what it found. It depends on nothing but
its arguments and what it sees of the file system.
-/

namespace SourceTrace

/-- Why a run ends before its first lookup. -/
inductive RunError where
  /-- The settings file is at fault. -/
  | settings (error : SettingsError)
  /-- A setting is missing. -/
  | missing (setting : MissingSetting)
  /-- The compiler output cannot be read. -/
  | unreadable (path : String) (fault : ReadFault)
  /-- The compiler output is no JSON. -/
  | notJson (path : String)
  /-- The document is no compiler output. -/
  | notOutput (path : String) (error : Compiler.LoadError)
  /-- The contract cannot be taken out of the compiler output. -/
  | contract (error : Compiler.LoadError)
  /-- The bytecode of the contract cannot be read. -/
  | bytecode (key : String) (error : LookupError)

/-- The wording of an error. What follows the words about JSON depends on the reader of the
document. -/
def RunError.message : RunError → String
  | .settings error => error.message
  | .missing setting => setting.message
  | .unreadable path fault => "Failed to read compiler output: " ++ path ++ ": " ++ fault.message
  | .notJson path =>
    "Failed to load compiler output: " ++ path ++
      ": Compiler output is not valid JSON: malformed document"
  | .notOutput path error => "Failed to load compiler output: " ++ path ++ ": " ++ error.message
  | .contract error => error.message
  | .bytecode key error => "Invalid runtime bytecode for " ++ key ++ ": " ++ error.message

namespace Run

/-- Loads a compiler output. -/
def loadOutput (files : Files) (path : String) : Except RunError Compiler.Output :=
  match (files path).readText with
  | .error fault => .error (.unreadable path fault)
  | .ok text =>
    match Json.parse? text with
    | none => .error (.notJson path)
    | some document =>
      match Compiler.Output.ofJson document with
      | .error error => .error (.notOutput path error)
      | .ok output => .ok output

/-- The messages about the compiler version of an artifact. -/
def artifactMessages (settings : Settings) (artifact : Compiler.Artifact) : List Message :=
  match artifact.compilerVersion with
  | some version => Compiler.versionMessages version settings.minimumVersion
  | none =>
    [⟨.warning, artifact.key ++ " carries no compiler version, skipping the version check",
      false⟩]

/-- The program of an artifact. -/
def programOf (settings : Settings) (output : Compiler.Output) (artifact : Compiler.Artifact)
    (sources : SourceSet) : Except RunError Program :=
  match Evm.Bytecode.parse artifact.bytecode with
  | .error error => .error (.bytecode artifact.key error)
  | .ok bytecode => .ok {
      bytecode
      sourceMap := SourceMap.parse artifact.sourceMap
      tree := output.forest
      sources
      literal := !settings.noLiteral }

/-- Takes the program of the contract out of a compiler output. -/
def extract (files : Files) (settings : Settings) (output : Compiler.Output) :
    Compiler.Noted (Except RunError Program) :=
  match output.artifact settings.contract with
  | (messages, .error error) => (messages, .error (.contract error))
  | (messages, .ok artifact) =>
    let (sourceMessages, sources) := output.sourceSet artifact files settings.sourcesPath?
    (messages ++ artifactMessages settings artifact ++ sourceMessages,
      programOf settings output artifact sources)

/-- Loads the program that settings name. -/
def load (files : Files) (settings : Settings) : Compiler.Noted (Except RunError Program) :=
  match settings.missing?, settings.outputPath? with
  | some setting, _ => ([], .error (.missing setting))
  | none, none => ([], .error (.missing .compilerOutput))
  | none, some path =>
    match loadOutput files path with
    | .error error => ([], .error error)
    | .ok output => extract files settings output

/-- The style of failures. -/
def failureStyle : String := "\x1b[31m"

/-- The style of the word that opens a failure. -/
def failureWordStyle : String := "\x1b[1;31m"

/-- A text in a style, if styles are used. -/
def styled (console : Console) (style text : String) : String :=
  if console.colored then paint style text else text

/-- The warning that the code of a report was made from the syntax tree. -/
def reportMessages (json : Bool) (report : Report) : List Message :=
  match report.outcome with
  | .ok location =>
    if location.reconstructed && !json then
      [.warning .reconstructedSource ("no source text for " ++ location.file ++
        ", code was reconstructed from the AST (line 0)")]
    else []
  | .error _ => []

/-- Prints a report: on the channel of results, or a failure as text on the channel of messages. -/
def printReport (json : Bool) (report : Report) (console : Console) : Console :=
  let console := console.postAll (reportMessages json report)
  if json then console.print .out (report.toJson.render ++ "\n")
  else if report.isMapped then console.print .out (report.render ++ "\n")
  else console.print .err (styled console failureStyle report.render ++ "\n")

/-- Looks up an address and reports it, the explanation first. -/
def lookUp (settings : Settings) (program : Program) (state : Console × Totals)
    (address : String) : Console × Totals :=
  let (journal, outcome) := program.explain address { enabled := settings.explain }
  let report : Report := ⟨address, outcome⟩
  let console := if journal.closing.isEmpty then state.1 else state.1.print .err journal.closing
  (printReport settings.json report console, state.2.record report)

/-- The exit code of a run that could not be started. -/
def failureCode : Nat := 2

end Run

/-- What a run leaves behind. -/
structure Outcome where
  /-- The exit code. -/
  exitCode : Nat
  /-- What was printed, the summary aside. -/
  console : Console
  /-- The totals of the summary, if one is due. -/
  summary : Option Totals := none

namespace Run

/-- The outcome of a run that ends with an error. -/
def fail (console : Console) (error : RunError) : Outcome where
  exitCode := failureCode
  console := console.print .err
    (styled console failureWordStyle "error:" ++ " " ++ error.message ++ "\n")

/-- Looks up all addresses of a program. A summary is due for more than one address, unless reports
are JSON. -/
def lookUpAll (settings : Settings) (program : Program) (console : Console) : Outcome :=
  let (console, totals) := settings.addresses.foldl (lookUp settings program) (console, {})
  { exitCode := totals.exitCode
    console
    summary := if !settings.json && 1 < settings.addresses.length then some totals else none }

/-- Runs with complete settings. -/
def withSettings (files : Files) (settings : Settings) (console : Console) : Outcome :=
  match load files settings with
  | (messages, .error error) => fail (console.postAll messages) error
  | (messages, .ok program) => lookUpAll settings program (console.postAll messages)

/-- Runs with the settings of the arguments, laid over those of the settings file. -/
def start (files : Files) (given : Settings) (console : Console) : Outcome :=
  match given.withFile files with
  | .error error => fail console (.settings error)
  | .ok settings =>
    withSettings files settings
      (if settings.noColor then { console with colored := false } else console)

/-- Runs with arguments. -/
def ofArguments (files : Files) (arguments : List String) (console : Console) :
    Except ArgumentError Outcome :=
  (Arguments.parse arguments).map fun given => start files given console

/-- The paths that a run looks at, as far as what is seen at the first of them tells. -/
def paths (files : Files) (given : Settings) : List String :=
  given.config.getD given.defaultFilePath ::
    match given.withFile files with
    | .error _ => []
    | .ok settings =>
      settings.outputPath?.toList ++
        match settings.outputPath?.map (loadOutput files), settings.sourcesPath? with
        | some (.ok output), some directory =>
          match (output.artifact settings.contract).2 with
          | .ok artifact => (output.sourceIds artifact.metadata).flatMap fun source =>
              Compiler.sourcePlaces directory source.2
          | .error _ => []
        | _, _ => []

end Run

/-- The summary line of a run. -/
def Totals.summary (totals : Totals) : String :=
  "Summary: " ++ Text.decimal totals.mapped ++ " mapped " ++ Text.decimal totals.failed ++ " failed"

end SourceTrace

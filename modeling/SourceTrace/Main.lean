import SourceTrace.Run

/-!
# The program

Reads the files that a run looks at and prints what the run leaves behind.
-/

namespace SourceTrace.Main

/-- What a system error code says about a path of the wrong type. Codes come with either sign. -/
def wrongType (code : UInt32) : FileEntry :=
  if code = 21 || code = 0 - 21 then .directory else .notDirectory

/-- Looks at a path. -/
def look (path : String) : IO FileEntry := do
  try
    let data ← IO.FS.readBinFile path
    return .file data.toList
  catch error =>
    return match error with
      | .inappropriateType _ code _ => wrongType code
      | _ => .missing

/-- What was seen at the paths that were looked at. -/
def seen (entries : List (String × FileEntry)) : Files :=
  fun path => (entries.lookup path).getD .missing

/-- Looks at all paths of a run. What is seen at the settings file tells the path of the compiler
output, and that tells the paths of the sources, so three rounds suffice. -/
def gather (given : Settings) : IO Files := do
  let mut entries : List (String × FileEntry) := []
  for _ in [0:3] do
    for path in Run.paths (seen entries) given do
      if (entries.lookup path).isNone then
        entries := entries ++ [(path, ← look path)]
  return seen entries

/-- How the program is used. -/
def usage : String :=
  "Map EVM program counters back to Solidity source\n\n" ++
  "Usage: solmap [OPTIONS] <ADDRESSES>...\n\n" ++
  "Options:\n" ++
  "  -o, --compiler-output <PATH>          solc JSON output\n" ++
  "  -c, --contract <NAME>                 contract name or Solidity file name\n" ++
  "      --sources-dir <PATH>              directory of the source files\n" ++
  "      --no-literal                      always reconstruct code from the AST\n" ++
  "      --json                            print one JSON object per address\n" ++
  "      --explain                         print every step of each mapping\n" ++
  "  -v, --verbose                         verbosity level\n" ++
  "      --no-color                        disable colored output\n" ++
  "      --min-compiler-version <VERSION>  oldest compiler without a warning\n" ++
  "      --root <PATH>                     project root directory\n" ++
  "      --config <PATH>                   path of the config file\n" ++
  "  -h, --help                            print help\n" ++
  "  -V, --version                         print version\n"

/-- Answers arguments that ask for no run. -/
def refuse (error : ArgumentError) : IO UInt32 := do
  match error with
  | .usage => IO.print usage; return 0
  | .version => IO.println "solmap 0.0.1"; return 0
  | .missingAddress => IO.eprint ("error: no addresses were given\n\n" ++ usage)
  | .invalidValue => IO.eprint ("error: an option has no value\n\n" ++ usage)
  | .unknownOption => IO.eprint ("error: unexpected option found\n\n" ++ usage)
  | .repeatedOption => IO.eprint ("error: an option is given twice\n\n" ++ usage)
  | .unexpectedValue => IO.eprint ("error: a switch takes no value\n\n" ++ usage)
  return 2

/-- Prints what a run leaves behind. -/
def report (outcome : Outcome) (began : Nat) : IO UInt32 := do
  for (channel, text) in outcome.console.printed do
    match channel with
    | .out => IO.print text
    | .err => IO.eprint text
  if let some totals := outcome.summary then
    let elapsed := (← IO.monoMsNow) - began
    IO.eprintln ("\n" ++ totals.summary ++ " (" ++ Text.decimal elapsed ++ "ms)")
  return outcome.exitCode.toUInt32

end SourceTrace.Main

/-- Runs the program. -/
def main (arguments : List String) : IO UInt32 := do
  let began ← IO.monoMsNow
  match SourceTrace.Arguments.parse arguments with
  | .error error => SourceTrace.Main.refuse error
  | .ok given =>
    let files ← SourceTrace.Main.gather given
    SourceTrace.Main.report (SourceTrace.Run.start files given {}) began

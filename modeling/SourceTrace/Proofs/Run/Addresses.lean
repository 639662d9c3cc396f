import SourceTrace.Proofs.Run.Reports
import SourceTrace.Proofs.Run.Results
import SourceTrace.Proofs.Text.Joining

/-!
# Addresses of a run

A run treats its addresses independently, as `Run.onAddresses_independent` shows. What it loads does
not depend on them as long as there are some, and no lookup leaves anything behind that the results
of the next one could show.
-/

namespace SourceTrace

/-- Settings with other addresses. -/
def Settings.withAddresses (settings : Settings) (addresses : List String) : Settings :=
  { settings with addresses }

section Loading

variable {files : Files} {given : Settings} {addresses others : List String}

/-- The settings file is found and read without regard to the addresses, and has none of its own
that could take their place. -/
theorem Settings.withFile_withAddresses (nonempty : addresses ≠ []) :
    (given.withAddresses addresses).withFile files =
      (given.withFile files).map fun settings => settings.withAddresses addresses := by
  have path : (given.withAddresses addresses).filePath? files = given.filePath? files := rfl
  simp only [withFile, path]
  split
  · rfl
  · split
    · rfl
    · rename_i file read
      have given : addresses.isEmpty = false := List.isEmpty_eq_false_iff.mpr nonempty
      simp only [Except.map, overlay, withAddresses, given, Bool.false_eq_true, if_false]
      rfl

/-- A program is taken out of a compiler output without regard to the addresses. -/
theorem Run.extract_withAddresses (settings : Settings) (addresses : List String)
    (output : Compiler.Output) :
    extract files (settings.withAddresses addresses) output = extract files settings output := by
  simp only [extract, artifactMessages, programOf, Settings.sourcesPath?, Settings.withAddresses]

/-- A program is loaded without regard to the addresses, as long as there are some. -/
theorem Run.load_withAddresses (settings : Settings) (nonempty : addresses ≠ [])
    (otherNonempty : others ≠ []) :
    load files (settings.withAddresses addresses) = load files (settings.withAddresses others) := by
  have given : addresses.isEmpty = false := List.isEmpty_eq_false_iff.mpr nonempty
  have otherGiven : others.isEmpty = false := List.isEmpty_eq_false_iff.mpr otherNonempty
  have missing : (settings.withAddresses addresses).missing? =
      (settings.withAddresses others).missing? := by
    simp only [Settings.missing?, Settings.withAddresses, given, otherGiven]
    rfl
  have path (addresses : List String) :
      (settings.withAddresses addresses).outputPath? = settings.outputPath? := rfl
  simp only [load, missing, path, extract_withAddresses]

/-- What a run loads depends on the addresses only in that they are among the settings. -/
theorem Run.loaded_withAddresses (nonempty : addresses ≠ []) (otherNonempty : others ≠ []) :
    loaded files (given.withAddresses others) =
      (loaded files (given.withAddresses addresses)).map fun (settings, program) =>
        (settings.withAddresses others, program) := by
  simp only [loaded, Settings.withFile_withAddresses nonempty,
    Settings.withFile_withAddresses otherNonempty]
  cases given.withFile files with
  | error fault => rfl
  | ok settings =>
    simp only [Except.map]
    rw [load_withAddresses settings otherNonempty nonempty]
    cases (load files (settings.withAddresses addresses)).2 <;> rfl

/-- A settings file does not switch off JSON results. -/
theorem Settings.json_of_withFile {settings : Settings} (read : given.withFile files = .ok settings)
    (wanted : given.json = true) : settings.json = true := by
  simp only [withFile] at read
  split at read
  · cases read
    exact wanted
  · split at read
    · cases read
    · cases read
      rw [overlay, wanted, Bool.true_or]

/-- JSON results that the arguments ask for are not switched off by the settings file. -/
theorem Run.json_of_loaded {settings : Settings} {program : Program}
    (found : loaded files given = .ok (settings, program)) (wanted : given.json = true) :
    settings.json = true := by
  cases read : given.withFile files with
  | error fault =>
    rw [loaded, read] at found
    cases found
  | ok merged =>
    simp only [loaded, read] at found
    cases attempt : (load files merged).2 with
    | error fault =>
      rw [attempt] at found
      cases found
    | ok program =>
      rw [attempt] at found
      cases found
      exact Settings.json_of_withFile read wanted

end Loading

/-- What a run prints as results. -/
def Outcome.results (outcome : Outcome) : String :=
  outcome.console.text .out

namespace Run

/-- Runs with some addresses. -/
def onAddresses (files : Files) (given : Settings) (colored : Bool) (addresses : List String) :
    Outcome :=
  start files (given.withAddresses addresses) { colored }

section Results

variable {files : Files} {given settings : Settings} {program : Program}
  {addresses others : List String} (colored : Bool)

/-- Where a run cannot load for some addresses, it cannot load for others either. -/
theorem onAddresses_of_error (nonempty : addresses ≠ []) (otherNonempty : others ≠ [])
    {error : RunError} (failed : loaded files (given.withAddresses addresses) = .error error) :
    (onAddresses files given colored others).exitCode = 2 ∧
      (onAddresses files given colored others).results = "" := by
  have otherFailed := @loaded_withAddresses files given _ _ nonempty otherNonempty
  rw [failed] at otherFailed
  exact start_of_loaded_error otherFailed { colored }

/-- What a run loads for some addresses tells how a run with other ones ends and what it prints. -/
theorem onAddresses_of_loaded (nonempty : addresses ≠ []) (otherNonempty : others ≠ [])
    (found : loaded files (given.withAddresses addresses) = .ok (settings, program)) :
    (onAddresses files given colored others).exitCode =
        (if ∀ address ∈ others, (reportOf program address).isMapped = true then 0 else 1) ∧
      (onAddresses files given colored others).results =
        String.join (others.map fun address =>
          resultText settings.json (reportOf program address)) := by
  have otherFound := @loaded_withAddresses files given _ _ nonempty otherNonempty
  rw [found] at otherFound
  exact start_spec otherFound colored

/-- Results for addresses in a row follow one another, and the greater exit code counts. -/
theorem onAddresses_append (nonempty : addresses ≠ []) (otherNonempty : others ≠ []) :
    let run := onAddresses files given colored
    (run (addresses ++ others)).results = (run addresses).results ++ (run others).results ∧
      (run (addresses ++ others)).exitCode =
        max (run addresses).exitCode (run others).exitCode := by
  intro run
  have bothNonempty : addresses ++ others ≠ [] :=
    List.append_ne_nil_of_left_ne_nil nonempty others
  cases attempt : loaded files (given.withAddresses addresses) with
  | error error =>
    obtain ⟨exits, prints⟩ := onAddresses_of_error colored nonempty nonempty attempt
    obtain ⟨otherExits, otherPrints⟩ :=
      onAddresses_of_error colored nonempty otherNonempty attempt
    obtain ⟨bothExits, bothPrints⟩ := onAddresses_of_error colored nonempty bothNonempty attempt
    rw [bothPrints, prints, otherPrints, bothExits, exits, otherExits]
    exact ⟨rfl, rfl⟩
  | ok found =>
    obtain ⟨exits, prints⟩ := onAddresses_of_loaded colored nonempty nonempty attempt
    obtain ⟨otherExits, otherPrints⟩ :=
      onAddresses_of_loaded colored nonempty otherNonempty attempt
    obtain ⟨bothExits, bothPrints⟩ :=
      onAddresses_of_loaded colored nonempty bothNonempty attempt
    constructor
    · rw [bothPrints, prints, otherPrints, List.map_append, String.join_append]
    · rw [bothExits, exits, otherExits]
      simp only [List.forall_mem_append]
      grind

/-- An address is mapped exactly if the lookup finds a location. -/
theorem isMapped_reportOf_iff {address : String} : (reportOf program address).isMapped = true ↔
    ∃ location, program.locateAddress address = .ok location := by
  simp only [Report.isMapped, reportOf]
  cases program.locateAddress address <;> simp

/-- An address is not mapped exactly if the lookup fails. -/
theorem not_isMapped_reportOf_iff {address : String} :
    ¬(reportOf program address).isMapped = true ↔
    ∃ error, program.locateAddress address = .error error := by
  simp only [Report.isMapped, reportOf]
  cases program.locateAddress address <;> simp

/-- The exit code of a run that can load tells whether all addresses are mapped. -/
theorem exitCode_onAddresses_iff (nonempty : addresses ≠ [])
    (found : loaded files (given.withAddresses addresses) = .ok (settings, program)) :
    ((onAddresses files given colored addresses).exitCode = 0 ↔
        ∀ address ∈ addresses, ∃ location, program.locateAddress address = .ok location) ∧
      ((onAddresses files given colored addresses).exitCode = 1 ↔
        ∃ address ∈ addresses, ∃ error, program.locateAddress address = .error error) := by
  rw [(onAddresses_of_loaded colored nonempty nonempty found).1]
  simp only [← isMapped_reportOf_iff, ← not_isMapped_reportOf_iff]
  split
  · rename_i mapped
    simpa using mapped
  · rename_i unmapped
    simpa using unmapped

/-- The exit code is 2 exactly where a run cannot load. -/
theorem exitCode_onAddresses_eq_two_iff (nonempty : addresses ≠ []) :
    (onAddresses files given colored addresses).exitCode = 2 ↔
      ∃ error, loaded files (given.withAddresses addresses) = .error error := by
  cases attempt : loaded files (given.withAddresses addresses) with
  | error error =>
    rw [(onAddresses_of_error colored nonempty nonempty attempt).1]
    simp
  | ok found =>
    rw [(onAddresses_of_loaded colored nonempty nonempty attempt).1]
    split <;> simp

/-- JSON results have one line for each address, which holds the document of its report. -/
theorem splitOn_results_onAddresses (nonempty : addresses ≠ [])
    (found : loaded files (given.withAddresses addresses) = .ok (settings, program))
    (json : settings.json = true) :
    ((onAddresses files given colored addresses).results.toList.splitOn '\n').map String.ofList =
      addresses.map (fun address => (reportOf program address).toJson.render) ++ [""] := by
  have ended : (addresses.map fun address => resultText true (reportOf program address)) =
      (addresses.map fun address => (reportOf program address).toJson.render).map (· ++ "\n") := by
    rw [List.map_map]
    rfl
  rw [(onAddresses_of_loaded colored nonempty nonempty found).2, json, ended]
  apply Text.splitOn_join_lines
  intro line mem
  obtain ⟨address, -, rfl⟩ := List.mem_map.mp mem
  exact Report.newline_not_mem_render_toJson _

/-- The document of a report is read back from its line, unless the number of a code line is out of
range. -/
theorem parse?_render_reportOf {address : String}
    (bounded : ∀ location, program.locateAddress address = .ok location →
      location.line < UInt64.size) :
    Json.parse? (reportOf program address).toJson.render =
      some (reportOf program address).toJson := by
  apply Report.parse?_render_toJson
  intro location found
  have located : program.locateAddress address = .ok location := by rw [← found, reportOf]
  exact ⟨bounded location located, Program.bounded_of_locateAddress located⟩

/-- The document of the report about an address tells the address and what is found there. -/
theorem ofJson?_toJson_reportOf (address : String) :
    Report.ofJson? (reportOf program address).toJson = some (address,
      (program.locateAddress address).mapError fun error => (error.kind, error.message)) := by
  rw [Report.ofJson?_toJson, reportOf]

end Results

/-- A run treats its addresses independently. What it prints as results for addresses in a row is
what it prints for the first of them, followed by what it prints for the others, and its exit code
is the greater one. The exit code is 2 exactly where the run cannot load, and nothing is printed as
a result then; else it is 0 where all addresses are mapped and 1 where one is not. JSON results have
one line for each address, which holds the document of its report. The document tells the address
and what the lookup found: the location, or the kind and the wording of the error. It is read back
from its line as long as the number of the code line has 64 bits. -/
theorem onAddresses_independent (files : Files) (given : Settings) (colored : Bool)
    {first second : List String} (firstNonempty : first ≠ []) (secondNonempty : second ≠ []) :
    let run := onAddresses files given colored
    (run (first ++ second)).results = (run first).results ++ (run second).results ∧
      (run (first ++ second)).exitCode = max (run first).exitCode (run second).exitCode ∧
      ((run first).exitCode = 2 ↔
        ∃ error, loaded files (given.withAddresses first) = .error error) ∧
      (∀ error, loaded files (given.withAddresses first) = .error error →
        (run first).results = "") ∧
      ∀ settings program, loaded files (given.withAddresses first) = .ok (settings, program) →
        ((run first).exitCode = 0 ↔
          ∀ address ∈ first, ∃ location, program.locateAddress address = .ok location) ∧
        ((run first).exitCode = 1 ↔
          ∃ address ∈ first, ∃ error, program.locateAddress address = .error error) ∧
        (given.json = true → settings.json = true) ∧
        (settings.json = true →
          ((run first).results.toList.splitOn '\n').map String.ofList =
              first.map (fun address => (reportOf program address).toJson.render) ++ [""] ∧
            ∀ address ∈ first,
              Report.ofJson? (reportOf program address).toJson = some (address,
                (program.locateAddress address).mapError fun error =>
                  (error.kind, error.message)) ∧
              ((∀ location, program.locateAddress address = .ok location →
                  location.line < UInt64.size) →
                Json.parse? (reportOf program address).toJson.render =
                  some (reportOf program address).toJson)) := by
  intro run
  obtain ⟨prints, exits⟩ := onAddresses_append colored firstNonempty secondNonempty
  refine ⟨prints, exits, exitCode_onAddresses_eq_two_iff colored firstNonempty, ?_, ?_⟩
  · intro error failed
    exact (onAddresses_of_error colored firstNonempty firstNonempty failed).2
  · intro settings program found
    obtain ⟨mapped, unmapped⟩ := exitCode_onAddresses_iff colored firstNonempty found
    have kept := @json_of_loaded files (given.withAddresses first) _ _ found
    refine ⟨mapped, unmapped, kept, fun json => ?_⟩
    refine ⟨splitOn_results_onAddresses colored firstNonempty found json, fun address _ => ?_⟩
    exact ⟨ofJson?_toJson_reportOf address, parse?_render_reportOf⟩

/-- A compiler output and a source file of two lines. -/
def twoLineFiles : FileTree :=
  .ofList [("a", Text.bytes "b\nc"), ("out", Text.bytes
    ("\x7b\"contracts\":\x7b\"a:A\":\x7b" ++
      "\"bin-runtime\":\"00\",\"srcmap-runtime\":\"0:3:0\"\x7d\x7d," ++
      "\"sources\":\x7b\"a\":\x7b\"AST\":\x7b\"src\":\"0:3:0\"\x7d\x7d\x7d\x7d"))]

/-- Settings for the contract of the compiler output. -/
def twoLineSettings : Settings where
  compilerOutput := some "out"
  contract := "A"
  sourcesDir := some "."
  json := true

/-- Runs with the contract of the compiler output. -/
def onTwoLines : List String → Outcome :=
  onAddresses twoLineFiles.entry twoLineSettings false

/-- What a run prints about an address with code of two lines. -/
def twoLineResult : String :=
  "\x7b\"address\":\"0x0\",\"result\":\x7b\"file\":\"a\",\"code\":\"b\\nc\",\"line\":1,\"pc\":0," ++
    "\"instruction_index\":0,\"entry\":\x7b" ++
    "\"offset\":0,\"length\":3,\"file_id\":0,\"jump\":null," ++
    "\"modifiers\":null\x7d,\"reconstructed\":false\x7d\x7d\n"

/-- What a run prints about an address that cannot be read. -/
def unreadResult : String :=
  "\x7b\"address\":\"zz\",\"error\":\x7b\"kind\":\"invalid-address\",\"message\":" ++
    "\"Invalid address \\\"zz\\\": expected a hex number with optional 0x prefix\"\x7d\x7d\n"

/-- Code of two lines is reported on one line, and a failure at another address changes nothing
about it. -/
theorem onAddresses_independent_two_lines :
    (onTwoLines (["0x0"] ++ ["zz"])).exitCode = 1 ∧
      (onTwoLines (["0x0"] ++ ["zz"])).results = twoLineResult ++ unreadResult := by
  have found : (onTwoLines ["0x0"]).exitCode = 0 ∧
      (onTwoLines ["0x0"]).results = twoLineResult := by
    decide +kernel
  have failed : (onTwoLines ["zz"]).exitCode = 1 ∧
      (onTwoLines ["zz"]).results = unreadResult := by
    decide +kernel
  obtain ⟨prints, exits, -⟩ := onAddresses_independent twoLineFiles.entry twoLineSettings false
    (List.cons_ne_nil "0x0" []) (List.cons_ne_nil "zz" [])
  rw [← onTwoLines] at prints exits
  constructor
  · rw [exits, found.1, failed.1]
    decide
  · rw [prints, found.2, failed.2]

end Run

end SourceTrace

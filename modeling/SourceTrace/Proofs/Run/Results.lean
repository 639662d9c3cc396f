import SourceTrace.Run

/-!
# Results of a run

What a run prints as results is what it prints for each of its addresses, and its exit code tells
whether one of them failed. `Run.lookUp_spec` says what the lookup of one address adds, whatever was
explained, warned about or counted before, and `Run.start_spec` what a whole run leaves behind.
-/

namespace SourceTrace

namespace Console

variable (console : Console)

/-- A text that is printed appears at the end of its own channel, and only there. -/
theorem text_print (channel other : Channel) (text : String) :
    (console.print channel text).text other =
      if channel = other then console.text other ++ text else console.text other := by
  by_cases same : channel = other
  · simp [Console.text, print, same]
  · simp [Console.text, print, same]

/-- Messages are no results. -/
theorem text_out_post (message : Message) :
    (console.post message).text .out = console.text .out := by
  have recorded : (console.record message).text .out = console.text .out := by
    simp only [record]
    split <;> rfl
  simp only [post]
  split
  · rw [text_print, if_neg (by decide), recorded]
  · rfl

/-- Messages are no results, however many there are. -/
theorem text_out_postAll (messages : List Message) :
    (console.postAll messages).text .out = console.text .out := by
  induction messages generalizing console with
  | nil => rfl
  | cons message rest inductionHypothesis =>
    exact (inductionHypothesis (console.post message)).trans (console.text_out_post message)

end Console

namespace Totals

/-- Recording reports adds those without a location to the failures. -/
theorem failed_foldl_record (reports : List Report) (totals : Totals) :
    (reports.foldl record totals).failed =
      totals.failed + (reports.filter fun report => !report.isMapped).length := by
  induction reports generalizing totals with
  | nil => rfl
  | cons report rest inductionHypothesis =>
    rw [List.foldl_cons, inductionHypothesis]
    cases mapped : report.isMapped with
    | true => simp [record, mapped]
    | false =>
      simp only [record, mapped, List.filter_cons, Bool.not_false, Bool.false_eq_true, if_true,
        if_false, List.length_cons]
      omega

/-- The exit code is zero exactly if all reports have a location. -/
theorem exitCode_ofReports (reports : List Report) :
    (ofReports reports).exitCode =
      if ∀ report ∈ reports, report.isMapped = true then 0 else 1 := by
  rw [exitCode, ofReports, failed_foldl_record]
  simp

end Totals

namespace Run

/-- The report about an address. -/
def reportOf (program : Program) (address : String) : Report :=
  ⟨address, program.locateAddress address⟩

/-- What a report adds to the results. A failure that is not reported as JSON adds nothing. -/
def resultText (json : Bool) (report : Report) : String :=
  if json then report.toJson.render ++ "\n"
  else if report.isMapped then report.render ++ "\n"
  else ""

/-- Printing a report adds its result, and no warning does. -/
theorem text_out_printReport (json : Bool) (report : Report) (console : Console) :
    (printReport json report console).text .out = console.text .out ++ resultText json report := by
  simp only [printReport, resultText]
  split
  · rw [Console.text_print, if_pos rfl, Console.text_out_postAll]
  · split
    · rw [Console.text_print, if_pos rfl, Console.text_out_postAll]
    · rw [Console.text_print, if_neg (by decide), Console.text_out_postAll, String.append_empty]

/-- What is found at an address does not depend on the journal of the lookup. -/
theorem explain_snd (program : Program) (address : String) (journal : Journal) :
    (program.explain address journal).2 = program.locateAddress address := by
  rw [Program.explain, Program.locateAddress]

section LookUp

variable (settings : Settings) (program : Program)

/-- Looking up an address adds its result and counts its report, whatever was explained, warned
about or counted before. -/
theorem lookUp_spec (state : Console × Totals) (address : String) :
    (lookUp settings program state address).1.text .out =
        state.1.text .out ++ resultText settings.json (reportOf program address) ∧
      (lookUp settings program state address).2 = state.2.record (reportOf program address) := by
  have outcome := explain_snd program address { enabled := settings.explain }
  obtain ⟨journal, found, located⟩ : ∃ journal found,
      program.explain address { enabled := settings.explain } = (journal, found) := ⟨_, _, rfl⟩
  rw [located] at outcome
  have reported : (⟨address, found⟩ : Report) = reportOf program address := by
    rw [reportOf, ← outcome]
  simp only [lookUp, located, reported, and_true]
  rw [text_out_printReport]
  split
  · rfl
  · rw [Console.text_print, if_neg (by decide)]

/-- Looking up addresses in turn adds their results in turn and counts their reports. -/
theorem foldl_lookUp_spec (addresses : List String) (state : Console × Totals) :
    (addresses.foldl (lookUp settings program) state).1.text .out = state.1.text .out ++
        String.join (addresses.map fun address =>
          resultText settings.json (reportOf program address)) ∧
      (addresses.foldl (lookUp settings program) state).2 =
        (addresses.map (reportOf program)).foldl Totals.record state.2 := by
  induction addresses generalizing state with
  | nil => simp
  | cons address rest inductionHypothesis =>
    obtain ⟨printed, counted⟩ := lookUp_spec settings program state address
    obtain ⟨restPrinted, restCounted⟩ :=
      inductionHypothesis (lookUp settings program state address)
    constructor
    · rw [List.foldl_cons, restPrinted, printed, List.map_cons, String.join_cons,
        String.append_assoc]
    · rw [List.foldl_cons, restCounted, counted, List.map_cons, List.foldl_cons]

/-- Looking up all addresses adds their results in turn, and the exit code is that of their
reports. -/
theorem lookUpAll_spec (console : Console) :
    (lookUpAll settings program console).console.text .out = console.text .out ++
        String.join (settings.addresses.map fun address =>
          resultText settings.json (reportOf program address)) ∧
      (lookUpAll settings program console).exitCode =
        (Totals.ofReports (settings.addresses.map (reportOf program))).exitCode := by
  obtain ⟨printed, counted⟩ :=
    foldl_lookUp_spec settings program settings.addresses (console, {})
  exact ⟨printed, congrArg Totals.exitCode counted⟩

end LookUp

/-- What a run loads before its first lookup: its settings, with those of the settings file, and the
program. -/
def loaded (files : Files) (given : Settings) : Except RunError (Settings × Program) :=
  match given.withFile files with
  | .error error => .error (.settings error)
  | .ok settings => (load files settings).2.map fun program => (settings, program)

section Start

variable {files : Files} {given settings : Settings} {program : Program}

/-- A failed run prints no result. -/
theorem text_out_fail (console : Console) (error : RunError) :
    (fail console error).console.text .out = console.text .out := by
  rw [fail, Console.text_print, if_neg (by decide)]

/-- A run that cannot load ends at once and has no results. -/
theorem start_of_loaded_error {error : RunError} (failed : loaded files given = .error error)
    (console : Console) :
    (start files given console).exitCode = failureCode ∧
      (start files given console).console.text .out = console.text .out := by
  cases read : given.withFile files with
  | error fault =>
    simp only [start, read]
    exact ⟨rfl, text_out_fail console _⟩
  | ok settings =>
    simp only [loaded, read] at failed
    simp only [start, read]
    have plain (other : Console) (same : other.text .out = console.text .out) :
        (withSettings files settings other).exitCode = failureCode ∧
          (withSettings files settings other).console.text .out = console.text .out := by
      rcases attempt : load files settings with ⟨messages, fault | program⟩
      · simp only [withSettings, attempt]
        exact ⟨rfl, by rw [text_out_fail, Console.text_out_postAll, same]⟩
      · rw [attempt] at failed
        cases failed
    apply plain
    split <;> rfl

/-- A run that can load looks up all addresses, with no results before the first of them. -/
theorem start_of_loaded (found : loaded files given = .ok (settings, program)) (console : Console) :
    ∃ ready : Console, ready.text .out = console.text .out ∧
      start files given console = lookUpAll settings program ready := by
  cases read : given.withFile files with
  | error fault =>
    simp only [loaded, read] at found
    cases found
  | ok merged =>
    simp only [loaded, read] at found
    simp only [start, read]
    rcases attempt : load files merged with ⟨messages, fault | loadedProgram⟩
    · rw [attempt] at found
      cases found
    · rw [attempt] at found
      cases found
      simp only [withSettings, attempt]
      refine ⟨_, ?_, rfl⟩
      rw [Console.text_out_postAll]
      split <;> rfl

/-- The exit code and the results of a run, from what it loads. -/
theorem start_spec (found : loaded files given = .ok (settings, program)) (colored : Bool) :
    (start files given { colored }).exitCode =
        (if ∀ address ∈ settings.addresses, (reportOf program address).isMapped = true then 0
          else 1) ∧
      (start files given { colored }).console.text .out =
        String.join (settings.addresses.map fun address =>
          resultText settings.json (reportOf program address)) := by
  obtain ⟨ready, unprinted, started⟩ := start_of_loaded found { colored }
  obtain ⟨printed, counted⟩ := lookUpAll_spec settings program ready
  rw [started]
  constructor
  · rw [counted, Totals.exitCode_ofReports]
    simp
  · rw [printed, unprinted]
    exact String.empty_append

end Start

end Run

end SourceTrace

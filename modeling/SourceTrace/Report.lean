import SourceTrace.Json.Printer
import SourceTrace.Lookup.Location

/-!
# Reports

The outcome of the lookup of one address as it is printed, as a line of text or as a JSON object,
and the totals of a run.
-/

namespace SourceTrace

/-- A number of 64 bits or less as JSON. -/
def Json.ofNat (value : Nat) : Json := .num (.int value)

/-- A source map entry as JSON. -/
def SourceMap.Entry.toJson (entry : SourceMap.Entry) : Json :=
  .obj [
    ("offset", .num (.int entry.offset.toInt)),
    ("length", .num (.int entry.length.toInt)),
    ("file_id", .num (.int entry.fileId.toInt)),
    ("jump", (entry.jump.map fun jump => .str jump.letter).getD .null),
    ("modifiers", (entry.modifiers.map fun depth => .ofNat depth.toNat).getD .null)]

/-- A location as JSON. -/
def Location.toJson (location : Location) : Json :=
  .obj [
    ("file", .str location.file),
    ("code", .str location.code),
    ("line", .ofNat location.line),
    ("pc", .ofNat location.pc),
    ("instruction_index", .ofNat location.instructionIndex),
    ("entry", location.entry.toJson),
    ("reconstructed", .bool location.reconstructed)]

/-- The outcome of the lookup of an address. -/
structure Report where
  /-- The address as given. -/
  address : String
  /-- What was found. -/
  outcome : Except LookupError Location

namespace Report

/-- Whether a location was found. -/
def isMapped (report : Report) : Bool :=
  match report.outcome with
  | .ok _ => true
  | .error _ => false

/-- A report as one line of text. -/
def render (report : Report) : String :=
  match report.outcome with
  | .ok location => location.render
  | .error error => report.address ++ ": " ++ error.message ++ " [" ++ error.kind ++ "]"

/-- A report as JSON. -/
def toJson (report : Report) : Json :=
  .obj [("address", .str report.address),
    match report.outcome with
    | .ok location => ("result", location.toJson)
    | .error error =>
      ("error", .obj [("kind", .str error.kind), ("message", .str error.message)])]

end Report

/-- How many addresses of a run were mapped and how many were not. -/
structure Totals where
  /-- Addresses with a location. -/
  mapped : Nat := 0
  /-- Addresses without one. -/
  failed : Nat := 0
  deriving DecidableEq, Repr

namespace Totals

/-- Counts a report. -/
def record (totals : Totals) (report : Report) : Totals :=
  if report.isMapped then { totals with mapped := totals.mapped + 1 }
  else { totals with failed := totals.failed + 1 }

/-- The totals of reports. -/
def ofReports (reports : List Report) : Totals :=
  reports.foldl record {}

/-- The exit code of a run: zero if every address was mapped, else one. -/
def exitCode (totals : Totals) : Nat :=
  if totals.failed = 0 then 0 else 1

end Totals

end SourceTrace

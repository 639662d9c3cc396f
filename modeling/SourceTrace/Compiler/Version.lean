import SourceTrace.Console
import SourceTrace.Text.Blank
import SourceTrace.Text.Number

/-!
# Compiler versions

Versions are compared by their three numbers; what follows a plus or minus sign does not count.
-/

namespace SourceTrace.Compiler

/-- The numbers of a version. -/
structure Version where
  /-- First number. -/
  major : UInt64
  /-- Second number. -/
  minor : UInt64
  /-- Third number. -/
  patch : UInt64
  deriving DecidableEq, Repr

/-- Whether a version comes before another one. -/
def Version.isBefore (first second : Version) : Bool :=
  first.major < second.major || (first.major = second.major &&
    (first.minor < second.minor || (first.minor = second.minor && first.patch < second.patch)))

/-- The part of a version that holds its numbers: blank margins and any number of leading `v` are
dropped, and the rest is cut at the first plus or minus sign. -/
def versionCore (text : String) : List Char :=
  ((Text.trim text).toList.dropWhile (· = 'v')).takeWhile fun c => c != '+' && c != '-'

/-- Reads a version. Two numbers are required; a third one that is missing or unreadable is zero,
and what follows it is ignored. -/
def Version.parse? (text : String) : Option Version :=
  match ((versionCore text).splitOn '.').map fun part =>
    Text.readUnsigned? (String.ofList part) with
  | some major :: some minor :: rest => some ⟨major, minor, (rest.head?.join).getD 0⟩
  | _ => none

/-- Whether a version is at least a minimum. What cannot be read counts as supported. -/
def isSupported (version minimum : String) : Bool :=
  match Version.parse? version, Version.parse? minimum with
  | some found, some required => !found.isBefore required
  | _, _ => true

/-- The warning about a version that is below a minimum. -/
def versionMessages (version minimum : String) : List Message :=
  if isSupported version minimum then []
  else [.warning .untestedCompilerVersion
    ("The contract has been compiled using compiler version " ++ version ++
      ". The mapper has not been tested with versions below " ++ minimum)]

end SourceTrace.Compiler

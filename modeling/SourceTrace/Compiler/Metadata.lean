import SourceTrace.Json.Parser

/-!
# Contract metadata

Metadata name the compiler and the source files of a contract, and may hold the text of these files.
They are given as a JSON value or as a text that holds one. Each record may be written as an object
or as an array of its fields in order; unknown members of an object are ignored.
-/

namespace SourceTrace.Compiler

open Json (Draft)

/-- What is known about a contract besides its code. -/
structure Metadata where
  /-- Version of the compiler, empty if it is not given. -/
  version : String := ""
  /-- Source files by path in the order of the document, with their texts where embedded. -/
  sources : List (String × Option String) := []
  deriving DecidableEq, Repr

/-- Why metadata cannot be read. -/
inductive MetadataFault where
  /-- The text in which they are given holds no metadata. -/
  | text
  /-- The value is no metadata. -/
  | value
  deriving DecidableEq, Repr

/-- The wording of a fault. -/
def MetadataFault.message : MetadataFault → String
  | .text => "Failed to parse contract metadata string"
  | .value => "Failed to parse contract metadata"

namespace Metadata

/-- The member under a key: `none` if the key is repeated, `some none` if it is missing. -/
def uniqueMember? (members : List (Option String × Draft)) (key : String) :
    Option (Option Draft) :=
  match members.filter fun member => member.1 = some key with
  | [] => some none
  | [member] => some (some member.2)
  | _ => none

/-- Whether every key of an object is a text. -/
def keysAreTexts (members : List (Option String × Draft)) : Bool :=
  members.all fun member => member.1.isSome

/-- The only field of a record: `none` if the record is malformed, `some none` if the field is
missing. -/
def soleField? (key : String) : Draft → Option (Option Draft)
  | .obj members => if keysAreTexts members then uniqueMember? members key else none
  | .arr [] => some none
  | .arr [field] => some (some field)
  | _ => none

/-- The compiler version in a record of the compiler. -/
def compilerVersion? (record : Draft) : Option String :=
  match soleField? "version" record with
  | some none => some ""
  | some (some (.str version)) => version
  | _ => none

/-- The text in a record of a source file. In an array the field may not be missing. -/
def sourceContent? (record : Draft) : Option (Option String) :=
  match record, soleField? "content" record with
  | .arr [], _ => none
  | _, some none => some none
  | _, some (some .null) => some none
  | _, some (some (.str (some content))) => some (some content)
  | _, _ => none

/-- Gives a path a text at its old position, or adds it at the end. -/
def putSource (path : String) (content : Option String) :
    List (String × Option String) → List (String × Option String)
  | [] => [(path, content)]
  | (other, old) :: rest =>
    if other = path then (path, content) :: rest else (other, old) :: putSource path content rest

/-- The source files in an object of records. -/
def sourceFiles? (members : List (Option String × Draft)) :
    Option (List (String × Option String)) :=
  members.foldlM (fun files (path, record) =>
    match path, sourceContent? record with
    | some path, some content => some (putSource path content files)
    | _, _ => none) []

/-- Metadata from the two fields of the outer record, each of which may be missing. -/
def ofFields? (compiler sources : Option Draft) : Option Metadata :=
  let version := (compiler.map compilerVersion?).getD (some "")
  let files := match sources with
    | none => some []
    | some (.obj members) => sourceFiles? members
    | some _ => none
  match version, files with
  | some version, some files => some ⟨version, files⟩
  | _, _ => none

/-- Metadata from a document as written. -/
def ofDraft? : Draft → Option Metadata
  | .obj members =>
    if keysAreTexts members then
      match uniqueMember? members "compiler", uniqueMember? members "sources" with
      | some compiler, some sources => ofFields? compiler sources
      | _, _ => none
    else none
  | .arr [] => ofFields? none none
  | .arr [compiler] => ofFields? (some compiler) none
  | .arr [compiler, sources] => ofFields? (some compiler) (some sources)
  | _ => none

/-- Metadata from a value, or from the text that it is. -/
def ofJson : Json → Except MetadataFault Metadata
  | .str text => match (Draft.parse? text).bind ofDraft? with
    | some metadata => .ok metadata
    | none => .error .text
  | value => match ofDraft? value.toDraft with
    | some metadata => .ok metadata
    | none => .error .value

/-- The version of the compiler, if it is given. -/
def version? (metadata : Metadata) : Option String :=
  if metadata.version.isEmpty then none else some metadata.version

/-- The text of a source file, if it is embedded. -/
def content? (metadata : Metadata) (path : String) : Option String :=
  (metadata.sources.lookup path).join

/-- The position of a source file. -/
def position? (metadata : Metadata) (path : String) : Option Nat :=
  metadata.sources.findIdx? fun source => source.1 = path

end Metadata

end SourceTrace.Compiler

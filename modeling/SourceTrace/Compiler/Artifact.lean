import SourceTrace.Compiler.Metadata
import SourceTrace.Compiler.Output
import SourceTrace.Console
import SourceTrace.Files
import SourceTrace.Source.Set

/-!
# Contract artifacts

What a lookup needs to know about one contract of a compiler output, and the source files of the
output by number.
-/

namespace SourceTrace.Compiler

/-- One contract of a compiler output. -/
structure Artifact where
  /-- Key of the contract in the output. -/
  key : String
  /-- Name of the contract. -/
  name : String
  /-- Runtime bytecode in hexadecimal. -/
  bytecode : String
  /-- Source map of the runtime bytecode. -/
  sourceMap : String
  /-- Version of the compiler. -/
  compilerVersion : Option String
  /-- Metadata, if they are present and readable. -/
  metadata : Option Metadata
  deriving DecidableEq, Repr

/-- A value together with the messages to be posted when it is used. -/
abbrev Noted (α : Type) := List Message × α

/-- The name among the contracts of a file that a given name stands for: the name itself, else the
name as a file name without extension, else the only one there is. -/
def selectName (contracts : List (String × Json)) (name key : String) : Except LoadError String :=
  let names := contracts.map Prod.fst
  let stem := (Path.fileStem? name).getD name
  if names.contains name then .ok name
  else if names.contains stem then .ok stem
  else match names with
    | [only] => .ok only
    | names => .error (.contractNotFound name (names.map fun contract => key ++ ":" ++ contract))

/-- The text at the end of a chain of members. -/
def textAt? (value : Json) (path : List String) : Option String :=
  (path.foldlM Json.get? value).bind Json.text?

/-- What follows the last colon of a key. -/
def afterLastColon (key : String) : String :=
  String.ofList (key.toList.reverse.takeWhile (· != ':')).reverse

/-- Where a layout keeps a part of a contract. -/
def Format.pathTo : Format → RequiredPart → List String
  | .standard, .bytecode => ["evm", "deployedBytecode", "object"]
  | .standard, .sourceMap => ["evm", "deployedBytecode", "sourceMap"]
  | .combined, .bytecode => ["bin-runtime"]
  | .combined, .sourceMap => ["srcmap-runtime"]

/-- The message that a name is the key of a file. -/
def keyMessages (name key : String) : List Message :=
  if key = name then
    [.warning .contractNameIsFileName
      ("contract file name is equal to contract name, likely the Solidity file name was used as " ++
        "contract name")]
  else []

/-- The metadata of a contract. Those that cannot be read are left out with a message; the reason
that follows the fault's wording depends on the reader of the document. -/
def metadataOf (key : String) (contract : Json) : Noted (Option Metadata) :=
  match (contract.get? "metadata").map Metadata.ofJson with
  | none => ([], none)
  | some (.ok metadata) => ([], some metadata)
  | some (.error fault) =>
    ([.warning .parsingError
      ("ignoring metadata of " ++ key ++ ": " ++ fault.message ++ ": malformed document")], none)

namespace Output

/-- The name and the object of the contract behind a key. -/
def contractAt (output : Output) (name key : String) : Except LoadError (String × Json) :=
  match output.contracts.lookup key with
  | none => .error (.contractNotFound name output.keys)
  | some entry =>
    match output.format with
    | .combined => .ok (afterLastColon key, entry)
    | .standard =>
      match selectName entry.members name key with
      | .error error => .error error
      | .ok selected => .ok (selected, (entry.get? selected).getD .null)

/-- The artifact made of a contract that was found. -/
def artifactOf (output : Output) (key contractName : String) (contract : Json) :
    Noted (Except LoadError Artifact) :=
  match textAt? contract (output.format.pathTo .bytecode),
    textAt? contract (output.format.pathTo .sourceMap) with
  | none, _ => ([], .error (.missingPart key .bytecode))
  | some _, none => ([], .error (.missingPart key .sourceMap))
  | some bytecode, some sourceMap =>
    let (messages, metadata) := metadataOf key contract
    let compilerVersion := (metadata.bind Metadata.version?).orElse fun _ => output.version
    (messages, .ok ⟨key, contractName, bytecode, sourceMap, compilerVersion, metadata⟩)

/-- The artifact of the contract with a name. -/
def artifact (output : Output) (name : String) : Noted (Except LoadError Artifact) :=
  match output.keyFor name with
  | .error error => ([], .error error)
  | .ok key =>
    match output.contractAt name key with
    | .error error => (keyMessages name key, .error error)
    | .ok (contractName, contract) =>
      let (messages, artifact) := output.artifactOf key contractName contract
      (keyMessages name key ++ messages, artifact)

/-- Apart from messages, an artifact is the key of a name, then the contract behind it, then its
parts. -/
theorem artifact_snd (output : Output) (name : String) :
    (output.artifact name).2 = (output.keyFor name).bind fun key =>
      (output.contractAt name key).bind fun found => (output.artifactOf key found.1 found.2).2 := by
  rw [artifact]
  cases output.keyFor name with
  | error error => rfl
  | ok key =>
    simp only [Except.bind]
    cases output.contractAt name key <;> rfl

/-- The position of a path in the list of sources. -/
def listPosition? (output : Output) (path : String) : Option Nat :=
  output.sourceList.findIdx? (· = path)

/-- The number of a source: its own, else its position in the list of sources, in the metadata, or
among the sources. -/
def sourceId (output : Output) (metadata : Option Metadata) (position : Nat) (path : String)
    (source : Json) : Int64 :=
  match (source.get? "id").bind Json.int64? with
  | some id => id
  | none =>
    let listed := (output.listPosition? path).orElse fun _ => metadata.bind (·.position? path)
    Int64.ofNat (listed.getD position)

/-- The numbers and paths of all sources. -/
def sourceIds (output : Output) (metadata : Option Metadata) : List (Int64 × String) :=
  if !output.sources.isEmpty then
    output.sources.zipIdx.map fun ((path, source), position) =>
      (output.sourceId metadata position path source, path)
  else
    let paths :=
      if !output.sourceList.isEmpty then output.sourceList
      else (metadata.map fun metadata => metadata.sources.map Prod.fst).getD []
    paths.zipIdx.map fun (path, position) => (Int64.ofNat position, path)

end Output

/-- The places where the source with a path may be found below a directory. -/
def sourcePlaces (directory path : String) : List String :=
  Path.join directory path :: ((Path.fileName? path).map (Path.join directory)).toList

/-- Reads the source with a path below a directory; bytes that are no UTF-8 are replaced. -/
def readSource (files : Files) (directory path : String) : Noted (Option String) :=
  match (sourcePlaces directory path).find? fun place => (files place).isFile with
  | none =>
    ([.warning .missingSourceText (path ++ " not found in " ++ directory)], none)
  | some place =>
    match files place with
    | .file data =>
      match Text.ofBytes? data with
      | some text => ([], some text)
      | none =>
        ([.warning .sourceEncoding
          (place ++ " is not valid UTF-8, invalid sequences were replaced")],
          some (Text.ofBytesLossy data))
    | _ => ([], none)

/-- The content of a source: embedded in the metadata, else read below a directory if one is
given. -/
def sourceContent (files : Files) (metadata : Option Metadata) (directory : Option String)
    (path : String) : Noted (Option String) :=
  match metadata.bind (·.content? path), directory with
  | some content, _ => ([], some content)
  | none, none => ([], none)
  | none, some directory => readSource files directory path

/-- The source files of an output by number, as one of its artifacts knows them. -/
def Output.sourceSet (output : Output) (artifact : Artifact) (files : Files)
    (directory : Option String) : Noted SourceSet :=
  let found := (output.sourceIds artifact.metadata).map fun (id, path) =>
    (id, path, sourceContent files artifact.metadata directory path)
  (found.flatMap fun (_, _, content) => content.1,
    SourceSet.ofList (found.map fun (id, path, content) => (id, ⟨path, content.2⟩)))

end SourceTrace.Compiler

import SourceTrace.Json.Basic
import SourceTrace.Text.Bracket
import SourceTrace.Text.Fold

/-!
# Compiler output

The JSON document that the compiler writes, in one of two layouts, and the choice of a contract in
it by name.
-/

namespace SourceTrace.Compiler

/-- The layouts of the object of contracts. -/
inductive Format where
  /-- Contracts by file and then by name. -/
  | standard
  /-- Contracts by file and name in one key. -/
  | combined
  deriving DecidableEq, Repr

/-- The name of a layout. -/
def Format.name : Format → String
  | .standard => "standard-json"
  | .combined => "combined-json"

/-- Why a document is no compiler output. -/
inductive FormatFault where
  /-- The document is no object. -/
  | notObject
  /-- The object of contracts has no members. -/
  | noContracts
  /-- There is no object of contracts. -/
  | missingContracts
  deriving DecidableEq, Repr

/-- The wording of a fault. -/
def FormatFault.message : FormatFault → String
  | .notObject => "top level is not an object"
  | .noContracts => "contracts object is empty"
  | .missingContracts => "missing contracts object"

/-- The parts of a contract that a lookup cannot do without. -/
inductive RequiredPart where
  /-- Runtime bytecode. -/
  | bytecode
  /-- Source map of the runtime bytecode. -/
  | sourceMap
  deriving DecidableEq, Repr

/-- The name of a part. -/
def RequiredPart.name : RequiredPart → String
  | .bytecode => "runtime bytecode"
  | .sourceMap => "runtime source map"

/-- Why no contract can be taken out of a compiler output. -/
inductive LoadError where
  /-- No contract has the name. -/
  | contractNotFound (name : String) (available : List String)
  /-- Several contracts have the name. -/
  | ambiguousContract (name : String) (candidates : List String)
  /-- The contract lacks a part. -/
  | missingPart (key : String) (part : RequiredPart)
  /-- The document is no compiler output. -/
  | unknownFormat (fault : FormatFault)
  deriving DecidableEq, Repr

/-- The name of the kind of an error. -/
def LoadError.kind : LoadError → String
  | .contractNotFound _ _ => "contract-not-found"
  | .ambiguousContract _ _ => "ambiguous-contract"
  | .missingPart _ _ => "missing-artifact-field"
  | .unknownFormat _ => "unknown-format"

/-- The wording of an error. -/
def LoadError.message : LoadError → String
  | .contractNotFound name available =>
    "No contract found for name " ++ name ++ " (available: " ++ Text.commas available ++ ")"
  | .ambiguousContract name candidates =>
    "Multiple possible contracts found for name " ++ name ++ ": " ++ Text.commas candidates
  | .missingPart key part =>
    "Contract " ++ key ++ " has no " ++ part.name ++ " in the compiler output"
  | .unknownFormat fault => "Unrecognised compiler output: " ++ fault.message

/-- A compiler output. -/
structure Output where
  /-- Its layout. -/
  format : Format
  /-- The object of contracts. -/
  contracts : List (String × Json)
  /-- The object of sources. -/
  sources : List (String × Json)
  /-- Paths of the sources by number, in the combined layout. -/
  sourceList : List String
  /-- Version of the compiler. -/
  version : Option String

/-- The layout of a document: combined if it has a list of sources or if a contract has one of the
parts that only this layout has. -/
def formatOf (document : Json) (contracts : List (String × Json)) : Format :=
  let isCombined := (document.get? "sourceList").isSome || contracts.any fun (_, contract) =>
    (contract.get? "bin-runtime").isSome || (contract.get? "srcmap-runtime").isSome
  if isCombined then .combined else .standard

namespace Output

/-- Reads a compiler output from its document. -/
def ofJson (document : Json) : Except LoadError Output :=
  if !document.isObject then .error (.unknownFormat .notObject)
  else match document.get? "contracts" with
    | some (.obj []) => .error (.unknownFormat .noContracts)
    | some (.obj contracts) =>
      .ok {
        format := formatOf document contracts
        contracts
        sources := ((document.get? "sources").map Json.members).getD []
        sourceList :=
          (((document.get? "sourceList").bind Json.items?).getD []).filterMap Json.text?
        version := (document.get? "version").bind Json.text? }
    | _ => .error (.unknownFormat .missingContracts)

/-- The keys of the contracts. -/
def keys (output : Output) : List String :=
  output.contracts.map Prod.fst

/-- The syntax trees of all sources as one array. -/
def forest (output : Output) : Json :=
  .arr (output.sources.filterMap fun (_, source) =>
    (source.get? "ast").orElse fun _ => source.get? "AST")

end Output

/-- Whether a character divides the components of a path. -/
def isSeparator (c : Char) : Bool :=
  c = '/' || c = '\\'

/-- What follows each separator in a key. -/
def afterSeparators : List Char → List (List Char)
  | [] => []
  | c :: rest => if isSeparator c then rest :: afterSeparators rest else afterSeparators rest

/-- Whether a name occurs, up to case, at the start of a key or right after a separator in it. -/
def keyMatches (name key : String) : Bool :=
  let folded := Text.foldCase name.toList
  (key.toList :: afterSeparators key.toList).any fun tail =>
    folded.isPrefixOf (Text.foldCase tail)

namespace Output

/-- The keys that match a name, in document order. -/
def candidates (output : Output) (name : String) : List String :=
  output.keys.filter (keyMatches name)

/-- The only key that matches a name. -/
def keyFor (output : Output) (name : String) : Except LoadError String :=
  match output.candidates name with
  | [key] => .ok key
  | [] => .error (.contractNotFound name output.keys)
  | candidates => .error (.ambiguousContract name candidates)

end Output

end SourceTrace.Compiler

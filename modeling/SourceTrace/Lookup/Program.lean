import SourceTrace.Ast.Locate
import SourceTrace.Ast.Render
import SourceTrace.Evm.Bytecode
import SourceTrace.Lookup.Journal
import SourceTrace.Lookup.Location
import SourceTrace.Source.Set

/-!
# Looking up program counters

A lookup goes from the address to the instruction, from there to the entry of the source map, to the
node of the syntax tree and to the code. The code is cut out of the source text where that is at
hand and long enough, and is made from the node otherwise.
-/

namespace SourceTrace

/-- A program with all that is known about its source. -/
structure Program where
  /-- Runtime bytecode. -/
  bytecode : Evm.Bytecode
  /-- Source map of the bytecode. -/
  sourceMap : SourceMap
  /-- Syntax tree of the source, or an array of them. -/
  tree : Json
  /-- Source files by number. -/
  sources : SourceSet := .empty
  /-- Source text of every file without a content of its own. -/
  fallback : Option String := none
  /-- Whether code may be cut out of source texts. -/
  literal : Bool := true

namespace Program

/-- The literal text of a range: from the content of its file if that has one, else from the
fallback text. -/
def literalSnippet? (program : Program) (range : SourceRange) : Option Snippet :=
  let offset := range.offset.toNat
  let length := range.length.toNat
  match (program.sources.get? range.fileId).filter (·.content.isSome), program.fallback with
  | some file, _ => file.snippet? offset length
  | none, some text => snippet? text offset length
  | none, none => none

/-- The name of a file: its path in the source set, else its path in the syntax tree, else its
number. -/
def fileName (program : Program) (fileId : Int64) : String :=
  (((program.sources.path? fileId).filter fun path => !path.isEmpty).orElse
    fun _ => Ast.unitPath? program.tree fileId).getD (Text.signedDecimal fileId.toInt)

end Program

/-- The text of the expression of a node if it has one, else of the node itself. -/
def Ast.Node.relevantCode (node : Ast.Node) : String :=
  ((node.child? "expression").getD node).unparse

/-- A text as traces show it: quoted and not too long. -/
def excerpt (code : String) : String :=
  Text.quote (Text.truncate 60 code)

/-- The steps of a lookup after its start, with its outcome. -/
abbrev Traced := List Step × Except LookupError Location

namespace Program

/-- The last part of a lookup: the code for a range that a node covers. -/
def traceCode (program : Program) (pc index : Nat) (entry : SourceMap.Entry) (range : SourceRange)
    (node : Ast.Node) : Traced :=
  let file := program.fileName range.fileId
  let snippet := if program.literal then program.literalSnippet? range else none
  match snippet with
  | some snippet =>
    let line := Text.decimal snippet.line
    ([⟨.literalExtracted, "line " ++ line ++ ": " ++ excerpt snippet.code⟩,
      ⟨.done, file ++ ":" ++ line⟩],
      .ok ⟨file, snippet.code, snippet.line, pc, index, entry, false⟩)
  | none =>
    let code := node.relevantCode
    if code.isEmpty then ([], .error (.missingLiteralSource range.fileId))
    else
      ([⟨.reconstructed, excerpt code⟩, ⟨.done, file ++ ":0"⟩],
        .ok ⟨file, code, 0, pc, index, entry, true⟩)

/-- The part of a lookup that starts from the source map entry of an instruction. -/
def traceEntry (program : Program) (pc index : Nat) (entry : SourceMap.Entry) : Traced :=
  match entry.range index with
  | .error error => ([], .error error)
  | .ok none => ([], .error (.noAssociatedSource index))
  | .ok (some range) =>
    match Ast.smallestContaining program.tree range with
    | .error error => ([], .error error)
    | .ok node =>
      let (steps, outcome) := program.traceCode pc index entry range node
      let place := (node.range?.getD range).render
      (⟨.nodeResolved, node.tag?.getD "<untagged>" ++ " at " ++ place⟩ :: steps, outcome)

/-- The part of a lookup that starts from an instruction. -/
def traceInstruction (program : Program) (pc index : Nat) : Traced :=
  match program.sourceMap.resolve index with
  | .error error => ([], .error error)
  | .ok entry =>
    let (steps, outcome) := program.traceEntry pc index entry
    (⟨.sourceMapResolved, "source map entry " ++ entry.render⟩ :: steps, outcome)

/-- The part of a lookup that starts from a program counter. A program counter past the padding is
reported before one inside it. -/
def tracePc (program : Program) (pc : Nat) : Traced :=
  match program.bytecode.instructionIndex pc with
  | .error error => ([], .error error)
  | .ok index =>
    match program.bytecode.byteAt? pc with
    | none => ([], .error (.addressNotFound pc program.bytecode.length))
    | some byte =>
      let (steps, outcome) := program.traceInstruction pc index
      (⟨.bytecodeResolved, "pc 0x" ++ Text.hexadecimal pc ++ " (" ++ Evm.mnemonic byte ++
        ") is instruction " ++ Text.decimal index⟩ :: steps, outcome)

/-- The source location of a program counter. -/
def locate (program : Program) (pc : Nat) : Except LookupError Location :=
  (program.tracePc pc).2

/-- The step that ends a failed lookup. -/
def failure (error : LookupError) : Step :=
  ⟨.failed, error.message ++ " [" ++ error.kind ++ "]"⟩

/-- All steps of the lookup of an address, with its outcome. -/
def traceAddress (program : Program) (address : String) : Traced :=
  let (steps, outcome) := match Text.readHexNumber? address with
    | some pc => program.tracePc pc
    | none => ([], .error (.invalidAddress address))
  let closing := match outcome with
    | .error error => [failure error]
    | .ok _ => []
  (⟨.start, "address " ++ address⟩ :: steps ++ closing, outcome)

/-- The lookup of an address, recorded in a journal. -/
def explain (program : Program) (address : String) (journal : Journal) :
    Journal × Except LookupError Location :=
  let (steps, outcome) := program.traceAddress address
  (journal.recordAll steps, outcome)

/-- The source location of an address. -/
def locateAddress (program : Program) (address : String) : Except LookupError Location :=
  (program.traceAddress address).2

end Program

/-- The source location of an address in a program given as texts. -/
def locateIn (bytecode sourceMap : String) (tree : Json) (fallback : Option String)
    (address : String) : Except LookupError Location :=
  match Evm.Bytecode.parse bytecode with
  | .error error => .error error
  | .ok bytecode =>
    Program.locateAddress
      { bytecode, sourceMap := SourceMap.parse sourceMap, tree, fallback } address

end SourceTrace

import SourceTrace.Ast.Kind
import SourceTrace.Ast.Locate
import SourceTrace.Ast.Node
import SourceTrace.Ast.Render
import SourceTrace.Ast.Render.Declaration
import SourceTrace.Ast.Render.Expression
import SourceTrace.Ast.Render.Statement
import SourceTrace.Ast.Render.Yul
import SourceTrace.Ast.Rendered
import SourceTrace.Compiler.Artifact
import SourceTrace.Compiler.Metadata
import SourceTrace.Compiler.Output
import SourceTrace.Compiler.Version
import SourceTrace.Console
import SourceTrace.Decimal.Layout
import SourceTrace.Decimal.Shortest
import SourceTrace.Evm.Bytecode
import SourceTrace.Evm.Opcode
import SourceTrace.Files
import SourceTrace.Json.Basic
import SourceTrace.Json.Draft
import SourceTrace.Json.Number
import SourceTrace.Json.Parser
import SourceTrace.Json.Printer
import SourceTrace.Lookup.Error
import SourceTrace.Lookup.Journal
import SourceTrace.Lookup.Location
import SourceTrace.Lookup.Program
import SourceTrace.Main
import SourceTrace.Path
import SourceTrace.Proofs.Ast.Closure
import SourceTrace.Proofs.Ast.Forest
import SourceTrace.Proofs.Ast.Visited
import SourceTrace.Proofs.Compiler.Numbering
import SourceTrace.Proofs.Compiler.Selection
import SourceTrace.Proofs.Console.Repetition
import SourceTrace.Proofs.Evm.Ownership
import SourceTrace.Proofs.Evm.Partition
import SourceTrace.Proofs.Json.Keys
import SourceTrace.Proofs.Json.Lines
import SourceTrace.Proofs.Json.Reading
import SourceTrace.Proofs.Lookup.Availability
import SourceTrace.Proofs.Lookup.Interference
import SourceTrace.Proofs.Lookup.Locality
import SourceTrace.Proofs.Lookup.Reference
import SourceTrace.Proofs.Lookup.Stages
import SourceTrace.Proofs.Lookup.Traces
import SourceTrace.Proofs.Run.Addresses
import SourceTrace.Proofs.Run.Reports
import SourceTrace.Proofs.Run.Results
import SourceTrace.Proofs.Settings.Order
import SourceTrace.Proofs.Source.Lines
import SourceTrace.Proofs.Source.Sets
import SourceTrace.Proofs.Source.Snippets
import SourceTrace.Proofs.SourceMap.Compression
import SourceTrace.Proofs.SourceMap.Inheritance
import SourceTrace.Proofs.SourceMap.Ranges
import SourceTrace.Proofs.Text.Decoding
import SourceTrace.Proofs.Text.Joining
import SourceTrace.Proofs.Text.Nesting
import SourceTrace.Proofs.Text.Numerals
import SourceTrace.Report
import SourceTrace.Run
import SourceTrace.Settings.Arguments
import SourceTrace.Settings.Basic
import SourceTrace.Settings.File
import SourceTrace.Source.File
import SourceTrace.Source.LineIndex
import SourceTrace.Source.Session
import SourceTrace.Source.Set
import SourceTrace.SourceMap.Basic
import SourceTrace.SourceMap.Resolve
import SourceTrace.SourceRange
import SourceTrace.Text.Blank
import SourceTrace.Text.Bracket
import SourceTrace.Text.Fold
import SourceTrace.Text.Hex
import SourceTrace.Text.Lines
import SourceTrace.Text.Number
import SourceTrace.Text.Printable
import SourceTrace.Text.Quoted
import SourceTrace.Text.Utf8
import SourceTrace.Toml.Parser
import SourceTrace.Toml.Scalar
import SourceTrace.Toml.Text
import SourceTrace.Toml.Tree
import SourceTrace.Toml.Value
import SourceTrace.Proofs.Source.Sessions
import SourceTrace.Proofs.Ast.Search
import SourceTrace.Proofs.SourceMap.Faults
import SourceTrace.Proofs.Ast.Brackets
import SourceTrace.Proofs.Ast.Attributes
import SourceTrace.Proofs.Ast.Expression
import SourceTrace.Proofs.Ast.Unambiguous
import SourceTrace.Proofs.Ast.Readings
import SourceTrace.Proofs.Ast.Annotations
import SourceTrace.Proofs.Json.Nulls
import SourceTrace.Proofs.Ast.Nulls
import SourceTrace.Proofs.Ast.StringArguments
import SourceTrace.Proofs.Ast.PrefixOperators
import SourceTrace.Proofs.Compiler.Narrowing
import SourceTrace.Proofs.Compiler.Spelling
import SourceTrace.Proofs.Compiler.Erasure
import SourceTrace.Proofs.Text.Integers
import SourceTrace.Proofs.Source.Ranges
import SourceTrace.Proofs.Text.Hexadecimal
import SourceTrace.Proofs.Evm.Spelling
import SourceTrace.Proofs.Settings.Grammar
import SourceTrace.Proofs.Settings.Acceptance
import SourceTrace.Proofs.Settings.Fallback
import SourceTrace.Proofs.Settings.Precedence
import SourceTrace.Proofs.Compiler.Versions
import SourceTrace.Proofs.Lookup.Naming

import SourceTrace.Ast.Rendered
import SourceTrace.Json.Number

/-!
# Expressions

The source text of expressions. Binary operations carry their own brackets, so operator precedence
never matters.
-/

namespace SourceTrace.Ast.Render

/-- The value of a literal as text. -/
def literalValue (node : Attributes) : String :=
  match node.value? "value" with
  | some (.str text) => text
  | some (.bool true) => "true"
  | some (.bool false) => "false"
  | some (.num number) => number.render
  | _ => ""

/-- A literal, with its unit if it has one. -/
def literal (node : Attributes) : String :=
  let value := literalValue node
  let kind := node.text "kind"
  let body :=
    if kind = "string" then Text.doubleQuotes value
    else if kind = "unicodeString" then "unicode" ++ Text.doubleQuotes value
    else if kind = "hexString" then "hex" ++ Text.doubleQuotes (node.text "hexValue")
    else value
  let unit := node.text "subdenomination"
  if unit.isEmpty then body else body ++ " " ++ unit

/-- An operation on two operands. -/
def binaryOperation (node : Attributes) : String :=
  Text.parens (Text.spaced [node.code "leftExpression", node.text "operator",
    node.code "rightExpression"])

/-- An operation on one operand; the operator stands in front unless the node says otherwise. -/
def unaryOperation (node : Attributes) : String :=
  let operator := node.text "operator"
  let operand := node.code "subExpression"
  if (node.flag? "prefix").getD true then
    if operator = "delete" then "delete " ++ operand else operator ++ operand
  else operand ++ operator

/-- An assignment; the plain operator may be left out of the node. -/
def assignment (node : Attributes) : String :=
  let operator := node.text "operator"
  Text.spaced [node.code "leftHandSide", if operator.isEmpty then "=" else operator,
    node.code "rightHandSide"]

/-- A choice between two expressions. -/
def conditional (node : Attributes) : String :=
  node.code "condition" ++ " ? " ++ node.code "trueExpression" ++ " : " ++
    node.code "falseExpression"

/-- Names paired with texts, as long as both last. -/
def namedPairs (names codes : List String) : String :=
  Text.commas (names.zipWith (fun name code => name ++ ": " ++ code) codes)

/-- A call; arguments are named if there is a name for each of them. -/
def functionCall (node : Attributes) : String :=
  let arguments := node.childCodes "arguments"
  let names := node.texts "names"
  if !names.isEmpty && names.length == arguments.length then
    node.code "expression" ++ Text.parens (Text.braces (namedPairs names arguments))
  else node.code "expression" ++ Text.parens (Text.commas arguments)

/-- A callee with call options. -/
def functionCallOptions (node : Attributes) : String :=
  node.code "expression" ++
    Text.braces (namedPairs (node.texts "names") (node.childCodes "options"))

/-- A member of a value. -/
def memberAccess (node : Attributes) : String :=
  node.code "expression" ++ "." ++ node.text "memberName"

/-- An element of an array or a mapping. -/
def indexAccess (node : Attributes) : String :=
  node.code "baseExpression" ++ Text.squares (node.code "indexExpression")

/-- A slice of an array. -/
def indexRangeAccess (node : Attributes) : String :=
  node.code "baseExpression" ++
    Text.squares (node.code "startExpression" ++ ":" ++ node.code "endExpression")

/-- A tuple, in which empty slots are kept, or an inline array. -/
def tupleExpression (node : Attributes) : String :=
  let components := Text.commas (node.slots "components")
  if node.isSet "isInlineArray" then Text.squares components else Text.parens components

/-- A creation. -/
def newExpression (node : Attributes) : String :=
  "new " ++ node.code "typeName"

/-- A type used as a value, with the argument of a conversion if it has one. -/
def elementaryTypeNameExpression (node : Attributes) : String :=
  let typeName := match node.value? "typeName" with
    | some (.str name) => name
    | some value => value.code
    | none => ""
  match node.value? "argument" with
  | some argument => typeName ++ Text.parens argument.code
  | none => typeName

end SourceTrace.Ast.Render

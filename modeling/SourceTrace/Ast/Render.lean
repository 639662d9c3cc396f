import SourceTrace.Ast.Node
import SourceTrace.Ast.Render.Declaration
import SourceTrace.Ast.Render.Expression
import SourceTrace.Ast.Render.Statement
import SourceTrace.Ast.Render.Yul

/-!
# Source text from syntax trees

Where the source of a node is not at hand, its text is put together from the tree. Comments and
spacing are lost. A node without a kind has no text, and a kind that is not known is marked, so that
it never stops a lookup.
-/

namespace SourceTrace.Ast

/-- The text of a node of a given kind, from its rendered attributes. -/
def Render.codeOfKind (node : Attributes) : Kind → String
  | .literal => literal node
  | .identifier | .identifierPath => node.text "name"
  | .binaryOperation => binaryOperation node
  | .unaryOperation => unaryOperation node
  | .assignment => assignment node
  | .conditional => conditional node
  | .functionCall => functionCall node
  | .functionCallOptions => functionCallOptions node
  | .memberAccess => memberAccess node
  | .indexAccess => indexAccess node
  | .indexRangeAccess => indexRangeAccess node
  | .tupleExpression => tupleExpression node
  | .newExpression => newExpression node
  | .elementaryTypeNameExpression => elementaryTypeNameExpression node
  | .typeDescriptions => node.text "typeString"
  | .block => block node "statements"
  | .uncheckedBlock => "unchecked " ++ block node "statements"
  | .expressionStatement => node.code "expression" ++ ";"
  | .variableDeclarationStatement => variableDeclarationStatement node
  | .ifStatement => ifStatement node
  | .whileStatement => whileStatement node
  | .doWhileStatement => doWhileStatement node
  | .forStatement => forStatement node
  | .returnStatement => returnStatement node
  | .emitStatement => "emit " ++ node.code "eventCall" ++ ";"
  | .revertStatement => revertStatement node
  | .breakStatement => "break;"
  | .continueStatement => "continue;"
  | .placeholderStatement => "_;"
  | .tryStatement => tryStatement node
  | .tryCatchClause => tryCatchClause node
  | .inlineAssembly => inlineAssembly node
  | .sourceUnit => "\n".intercalate (node.childCodes "nodes")
  | .pragmaDirective => pragmaDirective node
  | .importDirective => importDirective node
  | .contractDefinition => contractDefinition node
  | .inheritanceSpecifier => withArguments (node.code "baseName") node
  | .usingForDirective => usingForDirective node
  | .structDefinition => structDefinition node
  | .enumDefinition => enumDefinition node
  | .enumValue => node.text "name"
  | .eventDefinition => eventDefinition node
  | .errorDefinition => errorDefinition node
  | .userDefinedValueTypeDefinition => valueTypeDefinition node
  | .functionDefinition => functionDefinition node
  | .modifierDefinition => modifierDefinition node
  | .modifierInvocation => withArguments (node.code "modifierName") node
  | .overrideSpecifier => overrideSpecifier node
  | .parameterList => Text.commas (node.childCodes "parameters")
  | .variableDeclaration => variableDeclaration node
  | .structuredDocumentation => structuredDocumentation node
  | .storageLayoutSpecifier => "layout at " ++ node.code "baseSlotExpression"
  | .elementaryTypeName => elementaryTypeName node
  | .userDefinedTypeName => userDefinedTypeName node
  | .arrayTypeName => arrayTypeName node
  | .mappingType => mappingTypeName node
  | .functionTypeName => functionTypeName node
  | .yulBlock => block node "statements"
  | .yulIdentifier | .yulTypedName => node.text "name"
  | .yulLiteral => yulLiteral node
  | .yulLiteralValue => yulLiteralValue node
  | .yulLiteralHexValue => yulLiteralHexValue node
  | .yulAssignment => yulAssignment node
  | .yulVariableDeclaration => yulVariableDeclaration node
  | .yulFunctionCall => yulFunctionCall node
  | .yulExpressionStatement => node.code "expression"
  | .yulIf => yulIf node
  | .yulSwitch => yulSwitch node
  | .yulCase => yulCase node
  | .yulForLoop => yulForLoop node
  | .yulFunctionDefinition => yulFunctionDefinition node
  | .yulBreak => "break"
  | .yulContinue => "continue"
  | .yulLeave => "leave"
  | .unknown tag => "<unhandled " ++ tag ++ ">"

/-- The text of a node from its rendered attributes. -/
def Render.codeOf (node : Attributes) : String :=
  match node.kind? with
  | some kind => codeOfKind node kind
  | none => ""

mutual

/-- Renders a value, its parts first. -/
def rendered : Json → Rendered
  | .null => .null
  | .bool value => .bool value
  | .num value => .num value
  | .str text => .str text
  | .arr items =>
    let parts := renderedItems items
    .list parts (Text.commas (parts.map Rendered.code))
  | .obj members =>
    let parts := renderedMembers members
    .node parts (Render.codeOf ⟨parts⟩)

/-- Renders the items of an array. -/
def renderedItems : List Json → List Rendered
  | [] => []
  | item :: rest => rendered item :: renderedItems rest

/-- Renders the members of an object. -/
def renderedMembers : List (String × Json) → List (String × Rendered)
  | [] => []
  | (key, value) :: rest => (key, rendered value) :: renderedMembers rest

end

/-- The source text of a value: of a node its own, of an array that of its items with commas between
them, and of anything else none. -/
def unparse (value : Json) : String :=
  (rendered value).code

/-- The source text of a node. -/
def Node.unparse (node : Node) : String :=
  Ast.unparse node.toJson

end SourceTrace.Ast

/-!
# Kinds of syntax tree nodes

Every node names its kind by a tag. Each known kind has one tag, and the placeholder of a modifier
is also known under a second spelling.
-/

namespace SourceTrace.Ast

/-- The kind of a node. -/
inductive Kind where
  | arrayTypeName | assignment | binaryOperation | block | breakStatement | conditional
  | continueStatement | contractDefinition | doWhileStatement | elementaryTypeName
  | elementaryTypeNameExpression | emitStatement | enumDefinition | enumValue | errorDefinition
  | eventDefinition | expressionStatement | forStatement | functionCall | functionCallOptions
  | functionDefinition | functionTypeName | identifier | identifierPath | ifStatement
  | importDirective | indexAccess | indexRangeAccess | inheritanceSpecifier | inlineAssembly
  | literal | mappingType | memberAccess | modifierDefinition | modifierInvocation | newExpression
  | overrideSpecifier | parameterList | placeholderStatement | pragmaDirective | returnStatement
  | revertStatement | sourceUnit | storageLayoutSpecifier | structDefinition
  | structuredDocumentation | tryCatchClause | tryStatement | tupleExpression | typeDescriptions
  | unaryOperation | uncheckedBlock | userDefinedTypeName | userDefinedValueTypeDefinition
  | usingForDirective | variableDeclaration | variableDeclarationStatement | whileStatement
  | yulAssignment | yulBlock | yulBreak | yulCase | yulContinue | yulExpressionStatement
  | yulForLoop | yulFunctionCall | yulFunctionDefinition | yulIdentifier | yulIf | yulLeave
  | yulLiteral | yulLiteralHexValue | yulLiteralValue | yulSwitch | yulTypedName
  | yulVariableDeclaration
  /-- A kind without a rendering of its own. -/
  | unknown (tag : String)
  deriving DecidableEq, Repr

/-- The tag of a kind. -/
def Kind.tag : Kind → String
  | .arrayTypeName => "ArrayTypeName"
  | .assignment => "Assignment"
  | .binaryOperation => "BinaryOperation"
  | .block => "Block"
  | .breakStatement => "Break"
  | .conditional => "Conditional"
  | .continueStatement => "Continue"
  | .contractDefinition => "ContractDefinition"
  | .doWhileStatement => "DoWhileStatement"
  | .elementaryTypeName => "ElementaryTypeName"
  | .elementaryTypeNameExpression => "ElementaryTypeNameExpression"
  | .emitStatement => "EmitStatement"
  | .enumDefinition => "EnumDefinition"
  | .enumValue => "EnumValue"
  | .errorDefinition => "ErrorDefinition"
  | .eventDefinition => "EventDefinition"
  | .expressionStatement => "ExpressionStatement"
  | .forStatement => "ForStatement"
  | .functionCall => "FunctionCall"
  | .functionCallOptions => "FunctionCallOptions"
  | .functionDefinition => "FunctionDefinition"
  | .functionTypeName => "FunctionTypeName"
  | .identifier => "Identifier"
  | .identifierPath => "IdentifierPath"
  | .ifStatement => "IfStatement"
  | .importDirective => "ImportDirective"
  | .indexAccess => "IndexAccess"
  | .indexRangeAccess => "IndexRangeAccess"
  | .inheritanceSpecifier => "InheritanceSpecifier"
  | .inlineAssembly => "InlineAssembly"
  | .literal => "Literal"
  | .mappingType => "Mapping"
  | .memberAccess => "MemberAccess"
  | .modifierDefinition => "ModifierDefinition"
  | .modifierInvocation => "ModifierInvocation"
  | .newExpression => "NewExpression"
  | .overrideSpecifier => "OverrideSpecifier"
  | .parameterList => "ParameterList"
  | .placeholderStatement => "PlaceholderStatement"
  | .pragmaDirective => "PragmaDirective"
  | .returnStatement => "Return"
  | .revertStatement => "RevertStatement"
  | .sourceUnit => "SourceUnit"
  | .storageLayoutSpecifier => "StorageLayoutSpecifier"
  | .structDefinition => "StructDefinition"
  | .structuredDocumentation => "StructuredDocumentation"
  | .tryCatchClause => "TryCatchClause"
  | .tryStatement => "TryStatement"
  | .tupleExpression => "TupleExpression"
  | .typeDescriptions => "TypeDescriptions"
  | .unaryOperation => "UnaryOperation"
  | .uncheckedBlock => "UncheckedBlock"
  | .userDefinedTypeName => "UserDefinedTypeName"
  | .userDefinedValueTypeDefinition => "UserDefinedValueTypeDefinition"
  | .usingForDirective => "UsingForDirective"
  | .variableDeclaration => "VariableDeclaration"
  | .variableDeclarationStatement => "VariableDeclarationStatement"
  | .whileStatement => "WhileStatement"
  | .yulAssignment => "YulAssignment"
  | .yulBlock => "YulBlock"
  | .yulBreak => "YulBreak"
  | .yulCase => "YulCase"
  | .yulContinue => "YulContinue"
  | .yulExpressionStatement => "YulExpressionStatement"
  | .yulForLoop => "YulForLoop"
  | .yulFunctionCall => "YulFunctionCall"
  | .yulFunctionDefinition => "YulFunctionDefinition"
  | .yulIdentifier => "YulIdentifier"
  | .yulIf => "YulIf"
  | .yulLeave => "YulLeave"
  | .yulLiteral => "YulLiteral"
  | .yulLiteralHexValue => "YulLiteralHexValue"
  | .yulLiteralValue => "YulLiteralValue"
  | .yulSwitch => "YulSwitch"
  | .yulTypedName => "YulTypedName"
  | .yulVariableDeclaration => "YulVariableDeclaration"
  | .unknown tag => tag

/-- The known kinds. -/
def Kind.known : List Kind := [
  .arrayTypeName, .assignment, .binaryOperation, .block, .breakStatement, .conditional,
  .continueStatement, .contractDefinition, .doWhileStatement, .elementaryTypeName,
  .elementaryTypeNameExpression, .emitStatement, .enumDefinition, .enumValue, .errorDefinition,
  .eventDefinition, .expressionStatement, .forStatement, .functionCall, .functionCallOptions,
  .functionDefinition, .functionTypeName, .identifier, .identifierPath, .ifStatement,
  .importDirective, .indexAccess, .indexRangeAccess, .inheritanceSpecifier, .inlineAssembly,
  .literal, .mappingType, .memberAccess, .modifierDefinition, .modifierInvocation, .newExpression,
  .overrideSpecifier, .parameterList, .placeholderStatement, .pragmaDirective, .returnStatement,
  .revertStatement, .sourceUnit, .storageLayoutSpecifier, .structDefinition,
  .structuredDocumentation, .tryCatchClause, .tryStatement, .tupleExpression, .typeDescriptions,
  .unaryOperation, .uncheckedBlock, .userDefinedTypeName, .userDefinedValueTypeDefinition,
  .usingForDirective, .variableDeclaration, .variableDeclarationStatement, .whileStatement,
  .yulAssignment, .yulBlock, .yulBreak, .yulCase, .yulContinue, .yulExpressionStatement,
  .yulForLoop, .yulFunctionCall, .yulFunctionDefinition, .yulIdentifier, .yulIf, .yulLeave,
  .yulLiteral, .yulLiteralHexValue, .yulLiteralValue, .yulSwitch, .yulTypedName,
  .yulVariableDeclaration]

/-- Known tags with their kinds, the second spelling of the placeholder last. -/
def Kind.tags : List (String × Kind) :=
  Kind.known.map (fun kind => (kind.tag, kind)) ++
    [("PlaceHolderStatement", .placeholderStatement)]

/-- The kind with a tag. -/
def Kind.ofTag (tag : String) : Kind :=
  (Kind.tags.lookup tag).getD (.unknown tag)

/-- Whether a kind is known. -/
def Kind.isKnown : Kind → Bool
  | .unknown _ => false
  | _ => true

end SourceTrace.Ast

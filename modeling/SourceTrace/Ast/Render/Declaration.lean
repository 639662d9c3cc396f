import SourceTrace.Ast.Rendered
import SourceTrace.Text.Blank
import SourceTrace.Text.Lines

/-!
# Declarations and type names

The source text of directives, contracts, functions, variables and types.
-/

namespace SourceTrace.Ast.Render

/-- A name, with the arguments of the node if it has an argument list. -/
def withArguments (name : String) (node : Attributes) : String :=
  match node.value? "arguments" with
  | some arguments => name ++ Text.parens arguments.code
  | none => name

/-- The words of a header, followed by the body of the node or a semicolon. -/
def withBody (header : List String) (node : Attributes) : String :=
  match node.value? "body" with
  | some body => Text.spaced header ++ " " ++ body.code
  | none => Text.spaced header ++ ";"

/-- A word that is written if a condition holds. -/
def wordIf (condition : Bool) (word : String) : List String :=
  if condition then [word] else []

/-- A word that is written unless it is one of the given words. -/
def wordUnless (defaults : List String) (word : String) : List String :=
  if defaults.contains word then [] else [word]

/-- A pragma: its first word, then the others without space between them. -/
def pragmaDirective (node : Attributes) : String :=
  match node.texts "literals" with
  | [] => "pragma;"
  | [single] => "pragma " ++ single ++ ";"
  | first :: rest => "pragma " ++ first ++ " " ++ String.join rest ++ ";"

/-- One imported symbol: its own name, and the local name if that differs. -/
def importedSymbol? (symbol : Rendered) : Option String :=
  (symbol.member? "foreign").map fun foreign =>
    match (symbol.member? "local").bind Rendered.text? with
    | some name =>
      if !name.isEmpty && name != foreign.code then foreign.code ++ " as " ++ name else foreign.code
    | none => foreign.code

/-- An import of a whole file or of some of its symbols. -/
def importDirective (node : Attributes) : String :=
  let file := node.text "file"
  let path := Text.doubleQuotes (if file.isEmpty then node.text "absolutePath" else file)
  let unitName := node.text "unitAlias"
  if !unitName.isEmpty then "import " ++ path ++ " as " ++ unitName ++ ";"
  else
    let symbols := (node.items "symbolAliases").filterMap importedSymbol?
    if symbols.isEmpty then "import " ++ path ++ ";"
    else "import " ++ Text.braces (Text.commas symbols) ++ " from " ++ path ++ ";"

/-- The header of a contract; its body is never shown. -/
def contractDefinition (node : Attributes) : String :=
  let kind := node.text "contractKind"
  let bases := Text.commas (node.childCodes "baseContracts")
  (if node.isSet "abstract" then "abstract " else "") ++
    (if kind.isEmpty then "contract" else kind) ++ " " ++ node.text "name" ++
    (if bases.isEmpty then "" else " is " ++ bases)

/-- One function of a `using` list, with the operator it implements if there is one. -/
def usedFunction (entry : Rendered) : String :=
  let function :=
    (((entry.member? "function").orElse fun _ => entry.member? "definition").map
      Rendered.code).getD ""
  match (entry.member? "operator").bind Rendered.text? with
  | some operator => function ++ " as " ++ operator
  | none => function

/-- An attachment of a library or of single functions to a type, or to all types. -/
def usingForDirective (node : Attributes) : String :=
  let library := (node.childCode? "libraryName").getD
    (Text.braces (Text.commas ((node.items "functionList").map usedFunction)))
  let target := (node.childCode? "typeName").getD "*"
  "using " ++ library ++ " for " ++ target ++ (if node.isSet "global" then " global" else "") ++ ";"

/-- A structure with its members. -/
def structDefinition (node : Attributes) : String :=
  let members := (node.childCodes "members").map fun code => code ++ ";"
  "struct " ++ node.text "name" ++ " " ++ Text.braces (" " ++ Text.spaced members ++ " ")

/-- An enumeration with its values. -/
def enumDefinition (node : Attributes) : String :=
  "enum " ++ node.text "name" ++ " " ++
    Text.braces (" " ++ Text.commas (node.childCodes "members") ++ " ")

/-- An event. -/
def eventDefinition (node : Attributes) : String :=
  "event " ++ node.text "name" ++ Text.parens (node.code "parameters") ++
    (if node.isSet "anonymous" then " anonymous" else "") ++ ";"

/-- An error. -/
def errorDefinition (node : Attributes) : String :=
  "error " ++ node.text "name" ++ Text.parens (node.code "parameters") ++ ";"

/-- A type with values of its own. -/
def valueTypeDefinition (node : Attributes) : String :=
  "type " ++ node.text "name" ++ " is " ++ node.code "underlyingType" ++ ";"

/-- The name part of a function header; special functions are named by their kind. -/
def functionName (node : Attributes) : String :=
  let kind := node.text "kind"
  if kind = "constructor" || kind = "fallback" || kind = "receive" then kind
  else if node.isSet "isConstructor" then "constructor"
  else "function " ++ node.text "name"

/-- A function. -/
def functionDefinition (node : Attributes) : String :=
  let returns := node.code "returnParameters"
  withBody
    ([functionName node ++ Text.parens (node.code "parameters")] ++
      Text.nonempty [node.text "visibility"] ++
      wordUnless ["", "nonpayable"] (node.text "stateMutability") ++
      wordIf (node.isSet "virtual") "virtual" ++
      Text.nonempty [node.code "overrides"] ++
      node.childCodes "modifiers" ++
      wordIf (!returns.isEmpty) ("returns " ++ Text.parens returns))
    node

/-- A modifier. -/
def modifierDefinition (node : Attributes) : String :=
  withBody
    (["modifier " ++ node.text "name" ++ Text.parens (node.code "parameters")] ++
      wordIf (node.isSet "virtual") "virtual" ++
      Text.nonempty [node.code "overrides"])
    node

/-- An override, with the overridden contracts if they are given. -/
def overrideSpecifier (node : Attributes) : String :=
  let overrides := Text.commas (node.childCodes "overrides")
  if overrides.isEmpty then "override" else "override" ++ Text.parens overrides

/-- The words that say how a state variable is stored. -/
def stateVariableWords (node : Attributes) : List String :=
  let mutability := node.text "mutability"
  Text.nonempty [node.text "visibility"] ++
    (if mutability = "constant" || mutability = "immutable" then [mutability]
      else wordIf (node.isSet "constant") "constant") ++
    Text.nonempty [node.code "overrides"]

/-- A variable or parameter. -/
def variableDeclaration (node : Attributes) : String :=
  Text.spaced
    (Text.nonempty [node.code "typeName"] ++
      wordIf (node.isSet "indexed") "indexed" ++
      (if node.isSet "stateVariable" then stateVariableWords node
        else wordUnless ["", "default"] (node.text "storageLocation")) ++
      Text.nonempty [node.text "name"] ++
      match node.value? "value" with
      | some value => ["= " ++ value.code]
      | none => [])

/-- A documentation comment, line by line. -/
def structuredDocumentation (node : Attributes) : String :=
  let lines := (Text.lines (node.text "text")).map fun line => " * " ++ Text.trim line
  "/**\n" ++ "\n".intercalate lines ++ "\n */"

/-- A built-in type. -/
def elementaryTypeName (node : Attributes) : String :=
  let name := node.text "name"
  if name = "address" && node.text "stateMutability" = "payable" then "address payable" else name

/-- A type with a name of its own, by its path if it has one. -/
def userDefinedTypeName (node : Attributes) : String :=
  (node.childCode? "pathNode").getD (node.text "name")

/-- An array type. -/
def arrayTypeName (node : Attributes) : String :=
  node.code "baseType" ++ Text.squares (node.code "length")

/-- A mapping type, with the names of key and value if they have any. -/
def mappingTypeName (node : Attributes) : String :=
  let key := Text.words [node.code "keyType", node.text "keyName"]
  let value := Text.words [node.code "valueType", node.text "valueName"]
  "mapping" ++ Text.parens (key ++ " => " ++ value)

/-- A function type. -/
def functionTypeName (node : Attributes) : String :=
  let returns := node.code "returnParameterTypes"
  Text.spaced
    (["function" ++ Text.parens (node.code "parameterTypes")] ++
      wordUnless ["", "internal"] (node.text "visibility") ++
      wordUnless ["", "nonpayable"] (node.text "stateMutability") ++
      wordIf (!returns.isEmpty) ("returns " ++ Text.parens returns))

end SourceTrace.Ast.Render

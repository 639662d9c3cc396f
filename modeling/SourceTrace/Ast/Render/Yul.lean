import SourceTrace.Ast.Rendered

/-!
# Assembly

The source text of Yul, the language of assembly blocks.
-/

namespace SourceTrace.Ast.Render

/-- A literal, by its value or, without one, by its hexadecimal value. -/
def yulLiteral (node : Attributes) : String :=
  match node.value? "value" with
  | some _ =>
    if node.text "kind" = "string" then Text.doubleQuotes (node.text "value")
    else node.text "value"
  | none => "hex" ++ Text.doubleQuotes (node.text "hexValue")

/-- A literal given by its value. -/
def yulLiteralValue (node : Attributes) : String :=
  if node.text "kind" = "string" then Text.doubleQuotes (node.text "value") else node.text "value"

/-- A literal given by its hexadecimal value. -/
def yulLiteralHexValue (node : Attributes) : String :=
  if node.text "kind" = "number" then "0x" ++ node.text "value"
  else "hex" ++ Text.doubleQuotes (node.text "value")

/-- An assignment to one or more variables. -/
def yulAssignment (node : Attributes) : String :=
  Text.commas (node.childCodes "variableNames") ++ " := " ++ node.code "value"

/-- A declaration of variables, with or without a value. -/
def yulVariableDeclaration (node : Attributes) : String :=
  let names := Text.commas (node.childCodes "variables")
  match node.value? "value" with
  | some value => "let " ++ names ++ " := " ++ value.code
  | none => "let " ++ names

/-- A call. -/
def yulFunctionCall (node : Attributes) : String :=
  node.code "functionName" ++ Text.parens (Text.commas (node.childCodes "arguments"))

/-- A branch. -/
def yulIf (node : Attributes) : String :=
  "if " ++ node.code "condition" ++ " " ++ node.code "body"

/-- A switch with its cases. -/
def yulSwitch (node : Attributes) : String :=
  Text.words ["switch " ++ node.code "expression", Text.spaced (node.childCodes "cases")]

/-- A case of a switch; the text `default` in place of a value marks the default case. -/
def yulCase (node : Attributes) : String :=
  match node.value? "value" with
  | some (.str "default") => "default " ++ node.code "body"
  | _ => "case " ++ node.code "value" ++ " " ++ node.code "body"

/-- A loop. -/
def yulForLoop (node : Attributes) : String :=
  Text.spaced ["for", node.code "pre", node.code "condition", node.code "post", node.code "body"]

/-- A function. -/
def yulFunctionDefinition (node : Attributes) : String :=
  let returns := Text.commas (node.childCodes "returnVariables")
  "function " ++ node.text "name" ++ Text.parens (Text.commas (node.childCodes "parameters")) ++
    (if returns.isEmpty then "" else " -> " ++ returns) ++ " " ++ node.code "body"

end SourceTrace.Ast.Render

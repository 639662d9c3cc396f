import SourceTrace.Ast.Rendered

/-!
# Statements

The source text of statements. Statements of a block stand on lines of their own.
-/

namespace SourceTrace.Ast.Render

/-- The statements in the array under a key, as a block. -/
def block (node : Attributes) (key : String) : String :=
  let statements := node.childCodes key
  if statements.isEmpty then Text.braces " "
  else Text.braces ("\n" ++ "\n".intercalate statements ++ "\n")

/-- A declaration of local variables; other than one, they stand in brackets with empty slots
kept. -/
def variableDeclarationStatement (node : Attributes) : String :=
  let target := match node.slots "declarations" with
    | [single] => single
    | many => Text.parens (Text.commas many)
  match node.value? "initialValue" with
  | some value => target ++ " = " ++ value.code ++ ";"
  | none => target ++ ";"

/-- A branch. -/
def ifStatement (node : Attributes) : String :=
  let branch := "if " ++ Text.parens (node.code "condition") ++ " " ++ node.code "trueBody"
  match node.value? "falseBody" with
  | some body => branch ++ " else " ++ body.code
  | none => branch

/-- A loop that tests first. -/
def whileStatement (node : Attributes) : String :=
  "while " ++ Text.parens (node.code "condition") ++ " " ++ node.code "body"

/-- A loop that tests last. -/
def doWhileStatement (node : Attributes) : String :=
  "do " ++ node.code "body" ++ " while " ++ Text.parens (node.code "condition") ++ ";"

/-- A text without the semicolons at its end. -/
def dropSemicolons (code : String) : String :=
  String.ofList ((code.toList.reverse.dropWhile (· = ';')).reverse)

/-- A counting loop. -/
def forStatement (node : Attributes) : String :=
  let start := (node.childCode? "initializationExpression").getD ";"
  "for " ++ Text.parens (start ++ " " ++ node.code "condition" ++ "; " ++
    dropSemicolons (node.code "loopExpression")) ++ " " ++ node.code "body"

/-- A return, with or without a value. -/
def returnStatement (node : Attributes) : String :=
  match node.value? "expression" with
  | some value => "return " ++ value.code ++ ";"
  | none => "return;"

/-- A revert with an error, with a reason, or with neither. -/
def revertStatement (node : Attributes) : String :=
  match node.childCode? "errorCall" with
  | some call => "revert " ++ call ++ ";"
  | none => match node.value? "expression" with
    | some reason => "revert" ++ Text.parens reason.code ++ ";"
    | none => "revert();"

/-- A handler of a try statement. -/
def tryCatchClause (node : Attributes) : String :=
  let name := node.text "errorName"
  let parameters := node.code "parameters"
  if name.isEmpty && parameters.isEmpty then "catch " ++ node.code "block"
  else "catch " ++ name ++ Text.parens parameters ++ " " ++ node.code "block"

/-- A try statement: its first clause is the success case, the others are handlers. -/
def tryStatement (node : Attributes) : String :=
  let call := "try " ++ node.code "externalCall"
  match node.children "clauses" with
  | [] => call
  | success :: handlers =>
    let returns := success.attributes.code "parameters"
    let outcome := if returns.isEmpty then "" else " returns " ++ Text.parens returns
    call ++ outcome ++ " " ++ success.attributes.code "block" ++
      String.join (handlers.map fun handler => " " ++ handler.code)

/-- An assembly block with its flags. -/
def inlineAssembly (node : Attributes) : String :=
  let body := ((node.childCode? "AST").orElse fun _ => node.childCode? "yulBlock").getD
    (node.text "operations")
  let flags := node.texts "flags"
  let flagList :=
    if flags.isEmpty then "" else Text.parens (Text.commas (flags.map Text.doubleQuotes))
  Text.words ["assembly", flagList, body]

end SourceTrace.Ast.Render

import SourceTrace.Ast.Render
import SourceTrace.Proofs.Ast.Brackets.Balanced

/-!
# Brackets of the rules

One lemma for each rule of rendering: where the attributes of a node are balanced, its source text
is nested. Each lemma puts the text together in the order in which the rule writes it.
-/

namespace SourceTrace.Ast.Render

open Text (IsNested isPlain isNested_of_isPlain isNested_empty)

variable {node : Attributes}

section Expressions

/-- The value of a literal has no brackets. -/
theorem isPlain_literalValue (balanced : node.Balanced) : isPlain (literalValue node) = true := by
  rw [literalValue]
  split
  · rename_i found
    exact (balanced.value? found).text? rfl
  · decide
  · decide
  · exact Text.isPlain_render_number _
  · decide

/-- A literal is nested: its value has no brackets, and quotes and a unit add none. -/
theorem isNested_literal (balanced : node.Balanced) : IsNested (literal node) := by
  unfold literal
  extract_lets value kind body unit
  have plain : IsNested value := isNested_of_isPlain (isPlain_literalValue balanced)
  have hex := (balanced.word "hexValue").doubleQuotes.after "hex" rfl
  have nested : IsNested body :=
    .ite plain.doubleQuotes (.ite (plain.doubleQuotes.after "unicode" rfl) (.ite hex plain))
  exact .ite nested ((nested.before " " rfl).append (balanced.word "subdenomination"))

/-- A binary operation is nested: it stands in parentheses of its own. -/
theorem isNested_binaryOperation (balanced : node.Balanced) : IsNested (binaryOperation node) := by
  refine (IsNested.spaced ?_).parens
  simp [balanced.code, balanced.word]

/-- A unary operation is nested: an operator before or behind the operand has no brackets. -/
theorem isNested_unaryOperation (balanced : node.Balanced) : IsNested (unaryOperation node) := by
  have operand := balanced.code "subExpression"
  have leading := (balanced.word "operator").append operand
  exact .ite (.ite (operand.after "delete " rfl) leading)
    (operand.append (balanced.word "operator"))

/-- An assignment is nested: the operator between its sides has no brackets. -/
theorem isNested_assignment (balanced : node.Balanced) : IsNested (assignment node) := by
  apply IsNested.spaced
  simp only [List.forall_mem_cons]
  exact ⟨balanced.code _, .ite (by decide) (balanced.word "operator"), balanced.code _, nofun⟩

/-- A choice between expressions is nested: the marks between them are no brackets. -/
theorem isNested_conditional (balanced : node.Balanced) : IsNested (conditional node) :=
  ((((balanced.code _).before " ? " rfl).append (balanced.code _)).before " : " rfl).append
    (balanced.code _)

/-- Named values are nested if the names have no brackets and the values are nested. -/
theorem isNested_namedPairs {names codes : List String}
    (plain : ∀ name ∈ names, isPlain name = true)
    (nested : ∀ code ∈ codes, IsNested code) : IsNested (namedPairs names codes) := by
  apply IsNested.commas
  intro pair mem
  obtain ⟨position, found⟩ := List.mem_iff_getElem?.mp mem
  obtain ⟨name, code, nameFound, codeFound, rfl⟩ := List.getElem?_zipWith_eq_some.mp found
  have named := isNested_of_isPlain (plain name (List.mem_of_getElem? nameFound))
  exact (named.before ": " rfl).append (nested code (List.mem_of_getElem? codeFound))

/-- A call is nested: its arguments stand in parentheses, and in braces within if they have
names. -/
theorem isNested_functionCall (balanced : node.Balanced) : IsNested (functionCall node) := by
  have callee := balanced.code "expression"
  have pairs : IsNested (namedPairs (node.texts "names") (node.childCodes "arguments")) :=
    isNested_namedPairs balanced.texts balanced.childCodes
  exact .ite (callee.append pairs.braces.parens)
    (callee.append (IsNested.commas balanced.childCodes).parens)

/-- Call options are nested: they stand in braces. -/
theorem isNested_functionCallOptions (balanced : node.Balanced) :
    IsNested (functionCallOptions node) :=
  (balanced.code _).append (isNested_namedPairs balanced.texts balanced.childCodes).braces

/-- A member of a value is nested: its name has no brackets. -/
theorem isNested_memberAccess (balanced : node.Balanced) : IsNested (memberAccess node) :=
  ((balanced.code _).before "." rfl).append (balanced.word _)

/-- An index is nested: it stands in square brackets. -/
theorem isNested_indexAccess (balanced : node.Balanced) : IsNested (indexAccess node) :=
  (balanced.code _).append (balanced.code _).squares

/-- A range of indices is nested: both bounds stand in one pair of square brackets. -/
theorem isNested_indexRangeAccess (balanced : node.Balanced) : IsNested (indexRangeAccess node) :=
  (balanced.code _).append (((balanced.code _).before ":" rfl).append (balanced.code _)).squares

/-- A tuple is nested: its slots stand in parentheses, or in square brackets if it is an array. -/
theorem isNested_tupleExpression (balanced : node.Balanced) : IsNested (tupleExpression node) := by
  have components : IsNested (Text.commas (node.slots "components")) :=
    IsNested.commas balanced.slots
  exact .ite components.squares components.parens

/-- A type that is used as a value is nested: its argument stands in parentheses. -/
theorem isNested_elementaryTypeNameExpression (balanced : node.Balanced) :
    IsNested (elementaryTypeNameExpression node) := by
  unfold elementaryTypeNameExpression
  extract_lets typeName
  have named : IsNested typeName := by
    unfold typeName
    split
    · rename_i found
      exact isNested_of_isPlain ((balanced.value? found).text? rfl)
    · rename_i found
      exact (balanced.value? found).code
    · exact isNested_empty
  split
  · rename_i found
    exact named.append (balanced.value? found).code.parens
  · exact named

end Expressions

section Statements

/-- A block is nested: its statements stand in braces. -/
theorem isNested_block (balanced : node.Balanced) (key : String) : IsNested (block node key) := by
  have lines : IsNested ("\n".intercalate (node.childCodes key)) :=
    IsNested.intercalate (by decide) balanced.childCodes
  exact .ite (by decide) ((lines.after "\n" rfl).before "\n" rfl).braces

/-- A declaration is nested: several variables stand in parentheses before the initial value. -/
theorem isNested_variableDeclarationStatement (balanced : node.Balanced) :
    IsNested (variableDeclarationStatement node) := by
  have slots : ∀ code ∈ node.slots "declarations", IsNested code := balanced.slots
  unfold variableDeclarationStatement
  extract_lets target
  have nested : IsNested target := by
    unfold target
    split
    · rename_i single listed
      exact slots single (listed ▸ List.mem_singleton_self single)
    · exact (IsNested.commas slots).parens
  split
  · rename_i found
    exact ((nested.before " = " rfl).append (balanced.value? found).code).before ";" rfl
  · exact nested.before ";" rfl

/-- A branch is nested: the condition stands in parentheses before the bodies. -/
theorem isNested_ifStatement (balanced : node.Balanced) : IsNested (ifStatement node) := by
  have branch := (((balanced.code "condition").parens.after "if " rfl).before " " rfl).append
    (balanced.code "trueBody")
  simp only [ifStatement]
  split
  · rename_i found
    exact (branch.before " else " rfl).append (balanced.value? found).code
  · exact branch

/-- A loop is nested: the condition stands in parentheses before the body. -/
theorem isNested_whileStatement (balanced : node.Balanced) : IsNested (whileStatement node) :=
  (((balanced.code _).parens.after "while " rfl).before " " rfl).append (balanced.code _)

/-- A loop with its condition at the end is nested: that stands in parentheses. -/
theorem isNested_doWhileStatement (balanced : node.Balanced) : IsNested (doWhileStatement node) :=
  ((((balanced.code _).after "do " rfl).before " while " rfl).append
    (balanced.code _).parens).before ";" rfl

/-- Semicolons that are dropped take no bracket with them. -/
theorem isNested_dropSemicolons {code : String} (nested : IsNested code) :
    IsNested (dropSemicolons code) := by
  let semicolons := String.ofList (code.toList.reverse.takeWhile (· = ';')).reverse
  have split : dropSemicolons code ++ semicolons = code := by
    rw [dropSemicolons, ← String.ofList_append, ← List.reverse_append,
      List.takeWhile_append_dropWhile, List.reverse_reverse, String.ofList_toList]
  have plain : isPlain semicolons = true := by
    rw [Text.isPlain_iff]
    intro c mem
    rw [String.toList_ofList, List.mem_reverse] at mem
    rw [of_decide_eq_true (List.all_eq_true.mp List.all_takeWhile c mem)]
    decide
  rw [← split] at nested
  exact (Text.isNested_append_plain_iff plain).mp nested

/-- A counting loop is nested: its header stands in parentheses, whatever parts of it are
missing. -/
theorem isNested_forStatement (balanced : node.Balanced) : IsNested (forStatement node) := by
  have start : IsNested ((node.childCode? "initializationExpression").getD ";") := by
    cases found : node.childCode? "initializationExpression" with
    | none => decide
    | some code => exact balanced.childCode? found
  have step := isNested_dropSemicolons (balanced.code "loopExpression")
  have bounds := (start.before " " rfl).append (balanced.code "condition")
  have header := (bounds.before "; " rfl).append step
  exact ((header.parens.after "for " rfl).before " " rfl).append (balanced.code "body")

/-- A return statement is nested, with or without a value. -/
theorem isNested_returnStatement (balanced : node.Balanced) : IsNested (returnStatement node) := by
  rw [returnStatement]
  split
  · rename_i found
    exact ((balanced.value? found).code.after "return " rfl).before ";" rfl
  · decide

/-- A revert statement is nested: a reason without a call stands in parentheses. -/
theorem isNested_revertStatement (balanced : node.Balanced) : IsNested (revertStatement node) := by
  rw [revertStatement]
  split
  · rename_i found
    exact ((balanced.childCode? found).after "revert " rfl).before ";" rfl
  · split
    · rename_i found
      exact ((balanced.value? found).code.parens.after "revert" rfl).before ";" rfl
    · decide

/-- A handler is nested: its parameters stand in parentheses before its block. -/
theorem isNested_tryCatchClause (balanced : node.Balanced) : IsNested (tryCatchClause node) := by
  have name := (balanced.word "errorName").after "catch " rfl
  have header := name.append (balanced.code "parameters").parens
  exact .ite ((balanced.code "block").after "catch " rfl)
    ((header.before " " rfl).append (balanced.code "block"))

/-- A try statement is nested: so are the call, the results in parentheses and the clauses. -/
theorem isNested_tryStatement (balanced : node.Balanced) : IsNested (tryStatement node) := by
  have clauses : ∀ clause ∈ node.children "clauses", clause.Balanced := balanced.children
  unfold tryStatement
  extract_lets call
  have called : IsNested call := (balanced.code "externalCall").after "try " rfl
  split
  · exact called
  · rename_i success handlers listed
    rw [listed] at clauses
    have parts := (clauses success List.mem_cons_self).attributes
    extract_lets returns outcome
    have announced : IsNested outcome :=
      .ite isNested_empty ((parts.code "parameters").parens.after " returns " rfl)
    have handled : IsNested (String.join (handlers.map fun handler => " " ++ handler.code)) := by
      apply IsNested.join
      intro piece mem
      obtain ⟨handler, member, rfl⟩ := List.mem_map.mp mem
      exact (clauses handler (List.mem_cons_of_mem success member)).code.after " " rfl
    exact (((called.append announced).before " " rfl).append (parts.code "block")).append handled

/-- Inline assembly is nested: its flags stand in parentheses before the body. -/
theorem isNested_inlineAssembly (balanced : node.Balanced) : IsNested (inlineAssembly node) := by
  unfold inlineAssembly
  extract_lets body flags flagList
  have code : IsNested body := by
    unfold body
    cases tree : node.childCode? "AST" with
    | some code => exact balanced.childCode? tree
    | none =>
      cases yul : node.childCode? "yulBlock" with
      | some code => exact balanced.childCode? yul
      | none => exact balanced.word "operations"
  have quoted : ∀ piece ∈ flags.map Text.doubleQuotes, IsNested piece := by
    intro piece mem
    obtain ⟨flag, member, rfl⟩ := List.mem_map.mp mem
    exact (isNested_of_isPlain (balanced.texts flag member)).doubleQuotes
  have listed : IsNested flagList := .ite isNested_empty (IsNested.commas quoted).parens
  apply IsNested.words
  simp only [List.forall_mem_cons]
  exact ⟨by decide, listed, code, nofun⟩

end Statements

section Declarations

/-- A name with parameters in parentheses is nested if the name is. -/
theorem isNested_withArguments {name : String} (nested : IsNested name) (balanced : node.Balanced) :
    IsNested (withArguments name node) := by
  rw [withArguments]
  split
  · rename_i found
    exact nested.append (balanced.value? found).code.parens
  · exact nested

/-- A header with a body behind it is nested if the words of the header are. -/
theorem isNested_withBody {header : List String} (nested : ∀ word ∈ header, IsNested word)
    (balanced : node.Balanced) : IsNested (withBody header node) := by
  rw [withBody]
  split
  · rename_i found
    exact ((IsNested.spaced nested).before " " rfl).append (balanced.value? found).code
  · exact (IsNested.spaced nested).before ";" rfl

/-- A word that is written on a condition is nested if the word is. -/
theorem isNested_of_mem_wordIf {condition : Bool} {word piece : String} (nested : IsNested word)
    (mem : piece ∈ wordIf condition word) : IsNested piece := by
  rw [wordIf] at mem
  split at mem
  · rwa [List.mem_singleton.mp mem]
  · cases mem

/-- A word that is written unless it is a default is nested if the word is. -/
theorem isNested_of_mem_wordUnless {defaults : List String} {word piece : String}
    (nested : IsNested word) (mem : piece ∈ wordUnless defaults word) : IsNested piece := by
  rw [wordUnless] at mem
  split at mem
  · cases mem
  · rwa [List.mem_singleton.mp mem]

/-- A word that is written unless it is empty is nested if the word is. -/
theorem isNested_of_mem_nonempty {word piece : String} (nested : IsNested word)
    (mem : piece ∈ Text.nonempty [word]) : IsNested piece := by
  rwa [List.mem_singleton.mp (List.mem_filter.mp mem).1]

/-- A pragma is nested: it is made of words without brackets. -/
theorem isNested_pragmaDirective (balanced : node.Balanced) : IsNested (pragmaDirective node) := by
  have literals : ∀ text ∈ node.texts "literals", IsNested text :=
    fun text mem => isNested_of_isPlain (balanced.texts text mem)
  rw [pragmaDirective]
  split
  · decide
  · rename_i single listed
    exact ((literals single (by simp [listed])).after "pragma " rfl).before ";" rfl
  · rename_i first rest _ listed
    have rest : IsNested (String.join rest) :=
      IsNested.join fun text mem => literals text (by simp [listed, mem])
    have subject := (literals first (by simp [listed])).after "pragma " rfl
    exact ((subject.before " " rfl).append rest).before ";" rfl

/-- An imported symbol is nested, with or without a local name. -/
theorem isNested_of_importedSymbol? {symbol : Rendered} {code : String} (balanced : symbol.Balanced)
    (found : importedSymbol? symbol = some code) : IsNested code := by
  obtain ⟨foreign, present, rfl⟩ := Option.map_eq_some_iff.mp found
  have own := (balanced.member? present).code
  split
  · rename_i name read
    obtain ⟨value, localPresent, localRead⟩ := Option.bind_eq_some_iff.mp read
    have plain := (balanced.member? localPresent).text? localRead
    split
    · exact (own.before " as " rfl).append (isNested_of_isPlain plain)
    · exact own
  · exact own

/-- An import is nested: its symbols stand in braces, if it has any. -/
theorem isNested_importDirective (balanced : node.Balanced) : IsNested (importDirective node) := by
  unfold importDirective
  extract_lets file path unitName symbols
  have quoted : IsNested path :=
    (IsNested.ite (balanced.word "absolutePath") (balanced.word "file")).doubleQuotes
  have named : ∀ code ∈ symbols, IsNested code := by
    intro code mem
    obtain ⟨symbol, member, found⟩ := List.mem_filterMap.mp mem
    exact isNested_of_importedSymbol? (balanced.items symbol member) found
  have whole := quoted.after "import " rfl
  have list := (IsNested.commas named).braces.after "import " rfl
  exact .ite (((whole.before " as " rfl).append (balanced.word "unitAlias")).before ";" rfl)
    (.ite (whole.before ";" rfl) (((list.before " from " rfl).append quoted).before ";" rfl))

/-- The header of a contract is nested: so are its bases. -/
theorem isNested_contractDefinition (balanced : node.Balanced) :
    IsNested (contractDefinition node) := by
  have abstract : IsNested "abstract " := by decide
  have kind : IsNested "contract" := by decide
  have bases : IsNested (Text.commas (node.childCodes "baseContracts")) :=
    IsNested.commas balanced.childCodes
  apply IsNested.append
  · apply IsNested.append
    · apply IsNested.before _ " " rfl
      exact .append (abstract.ite isNested_empty) (kind.ite (balanced.word "contractKind"))
    · exact balanced.word "name"
  · exact .ite isNested_empty (bases.after " is " rfl)

/-- A function of a using list is nested, with or without an operator. -/
theorem isNested_usedFunction {entry : Rendered} (balanced : entry.Balanced) :
    IsNested (usedFunction entry) := by
  unfold usedFunction
  extract_lets function
  have named : IsNested function := by
    unfold function
    cases own : entry.member? "function" with
    | some value => exact (balanced.member? own).code
    | none =>
      cases other : entry.member? "definition" with
      | some value => exact (balanced.member? other).code
      | none => exact isNested_empty
  split
  · rename_i operator read
    obtain ⟨value, present, operatorRead⟩ := Option.bind_eq_some_iff.mp read
    have plain := (balanced.member? present).text? operatorRead
    exact (named.before " as " rfl).append (isNested_of_isPlain plain)
  · exact named

/-- A using directive is nested: a list of functions stands in braces. -/
theorem isNested_usingForDirective (balanced : node.Balanced) :
    IsNested (usingForDirective node) := by
  unfold usingForDirective
  extract_lets library target
  have named : IsNested library := by
    unfold library
    cases found : node.childCode? "libraryName" with
    | some code => exact balanced.childCode? found
    | none =>
      apply IsNested.braces
      apply IsNested.commas
      intro code mem
      obtain ⟨entry, member, rfl⟩ := List.mem_map.mp mem
      exact isNested_usedFunction (balanced.items entry member)
  have typed : IsNested target := by
    unfold target
    cases found : node.childCode? "typeName" with
    | some code => exact balanced.childCode? found
    | none => decide
  have attached := ((named.after "using " rfl).before " for " rfl).append typed
  exact (attached.append (.ite (by decide) isNested_empty)).before ";" rfl

/-- A structure is nested: its members stand in braces. -/
theorem isNested_structDefinition (balanced : node.Balanced) :
    IsNested (structDefinition node) := by
  have members :
      IsNested (Text.spaced ((node.childCodes "members").map fun code => code ++ ";")) := by
    apply IsNested.spaced
    intro piece mem
    obtain ⟨code, member, rfl⟩ := List.mem_map.mp mem
    exact (balanced.childCodes code member).before ";" rfl
  exact (((balanced.word _).after "struct " rfl).before " " rfl).append
    ((members.after " " rfl).before " " rfl).braces

/-- An enumeration is nested: its values stand in braces. -/
theorem isNested_enumDefinition (balanced : node.Balanced) : IsNested (enumDefinition node) := by
  have members : IsNested (Text.commas (node.childCodes "members")) :=
    IsNested.commas balanced.childCodes
  exact (((balanced.word _).after "enum " rfl).before " " rfl).append
    ((members.after " " rfl).before " " rfl).braces

/-- An event is nested: its parameters stand in parentheses. -/
theorem isNested_eventDefinition (balanced : node.Balanced) : IsNested (eventDefinition node) := by
  have header := ((balanced.word "name").after "event " rfl).append
    (balanced.code "parameters").parens
  exact (header.append (.ite (by decide) isNested_empty)).before ";" rfl

/-- An error is nested: its parameters stand in parentheses. -/
theorem isNested_errorDefinition (balanced : node.Balanced) : IsNested (errorDefinition node) :=
  (((balanced.word _).after "error " rfl).append (balanced.code _).parens).before ";" rfl

/-- A value type is nested: so is the type below it. -/
theorem isNested_valueTypeDefinition (balanced : node.Balanced) :
    IsNested (valueTypeDefinition node) :=
  ((((balanced.word _).after "type " rfl).before " is " rfl).append (balanced.code _)).before ";"
    rfl

/-- The name of a function is nested, whatever its kind. -/
theorem isNested_functionName (balanced : node.Balanced) : IsNested (functionName node) := by
  exact .ite (balanced.word "kind")
    (.ite (by decide) ((balanced.word "name").after "function " rfl))

/-- A function is nested: so are all words of its header and its body. -/
theorem isNested_functionDefinition (balanced : node.Balanced) :
    IsNested (functionDefinition node) := by
  have first := (isNested_functionName balanced).append (balanced.code "parameters").parens
  have returns := (balanced.code "returnParameters").parens.after "returns " rfl
  apply isNested_withBody _ balanced
  intro word mem
  simp only [List.mem_append, List.mem_singleton] at mem
  rcases mem with (((((rfl | visibility) | mutability) | virtual) | overrides) | modifier) | results
  · exact first
  · exact isNested_of_mem_nonempty (balanced.word _) visibility
  · exact isNested_of_mem_wordUnless (balanced.word _) mutability
  · exact isNested_of_mem_wordIf (by decide) virtual
  · exact isNested_of_mem_nonempty (balanced.code _) overrides
  · exact balanced.childCodes word modifier
  · exact isNested_of_mem_wordIf returns results

/-- A modifier is nested: so are all words of its header and its body. -/
theorem isNested_modifierDefinition (balanced : node.Balanced) :
    IsNested (modifierDefinition node) := by
  have first := ((balanced.word "name").after "modifier " rfl).append
    (balanced.code "parameters").parens
  apply isNested_withBody _ balanced
  intro word mem
  simp only [List.mem_append, List.mem_singleton] at mem
  rcases mem with (rfl | virtual) | overrides
  · exact first
  · exact isNested_of_mem_wordIf (by decide) virtual
  · exact isNested_of_mem_nonempty (balanced.code _) overrides

/-- An override specifier is nested: its contracts stand in parentheses, if it has any. -/
theorem isNested_overrideSpecifier (balanced : node.Balanced) :
    IsNested (overrideSpecifier node) := by
  have overrides : IsNested (Text.commas (node.childCodes "overrides")) :=
    IsNested.commas balanced.childCodes
  exact .ite (by decide) (overrides.parens.after "override" rfl)

/-- Each word that only state variables have is nested. -/
theorem isNested_of_mem_stateVariableWords (balanced : node.Balanced) :
    ∀ word ∈ stateVariableWords node, IsNested word := by
  intro word mem
  simp only [stateVariableWords, List.mem_append] at mem
  rcases mem with (visibility | mutability) | overrides
  · exact isNested_of_mem_nonempty (balanced.word _) visibility
  · split at mutability
    · rw [List.mem_singleton.mp mutability]
      exact balanced.word "mutability"
    · exact isNested_of_mem_wordIf (by decide) mutability
  · exact isNested_of_mem_nonempty (balanced.code _) overrides

/-- A variable is nested: so are all its words and its initial value. -/
theorem isNested_variableDeclaration (balanced : node.Balanced) :
    IsNested (variableDeclaration node) := by
  apply IsNested.spaced
  intro word mem
  simp only [List.mem_append] at mem
  rcases mem with (((type | indexed) | storage) | name) | value
  · exact isNested_of_mem_nonempty (balanced.code _) type
  · exact isNested_of_mem_wordIf (by decide) indexed
  · split at storage
    · exact isNested_of_mem_stateVariableWords balanced word storage
    · exact isNested_of_mem_wordUnless (balanced.word _) storage
  · exact isNested_of_mem_nonempty (balanced.word _) name
  · split at value
    · rename_i found
      rw [List.mem_singleton.mp value]
      exact (balanced.value? found).code.after "= " rfl
    · cases value

/-- A documentation comment is nested: its lines have no brackets. -/
theorem isNested_structuredDocumentation (balanced : node.Balanced) :
    IsNested (structuredDocumentation node) := by
  have lines : IsNested ("\n".intercalate
      ((Text.lines (node.text "text")).map fun line => " * " ++ Text.trim line)) := by
    apply IsNested.intercalate (by decide)
    intro piece mem
    obtain ⟨line, listed, rfl⟩ := List.mem_map.mp mem
    have plain : isPlain (Text.trim line) = true :=
      Text.isPlain_of_subset (balanced.text "text") fun c inLine =>
        Text.mem_of_mem_lines listed (Text.mem_of_mem_trim inLine)
    exact (isNested_of_isPlain plain).after " * " rfl
  exact (lines.after "/**\n" rfl).before "\n */" rfl

/-- A built-in type is nested: its name has no brackets. -/
theorem isNested_elementaryTypeName (balanced : node.Balanced) :
    IsNested (elementaryTypeName node) := by
  exact .ite (by decide) (balanced.word "name")

/-- A type with a name of its own is nested, by its path or by its name. -/
theorem isNested_userDefinedTypeName (balanced : node.Balanced) :
    IsNested (userDefinedTypeName node) := by
  rw [userDefinedTypeName]
  cases found : node.childCode? "pathNode" with
  | some code => exact balanced.childCode? found
  | none => exact balanced.word "name"

/-- An array type is nested: its length stands in square brackets. -/
theorem isNested_arrayTypeName (balanced : node.Balanced) : IsNested (arrayTypeName node) :=
  (balanced.code _).append (balanced.code _).squares

/-- A mapping type is nested: key and value stand in parentheses. -/
theorem isNested_mappingTypeName (balanced : node.Balanced) : IsNested (mappingTypeName node) := by
  have words {type name : String} : IsNested (Text.words [node.code type, node.text name]) := by
    apply IsNested.words
    simp [balanced.code, balanced.word]
  exact ((words.before " => " rfl).append words).parens.after "mapping" rfl

/-- A function type is nested: its parameters stand in parentheses, and so do its results. -/
theorem isNested_functionTypeName (balanced : node.Balanced) :
    IsNested (functionTypeName node) := by
  have first := (balanced.code "parameterTypes").parens.after "function" rfl
  have returns := (balanced.code "returnParameterTypes").parens.after "returns " rfl
  apply IsNested.spaced
  intro word mem
  simp only [List.mem_append, List.mem_singleton] at mem
  rcases mem with ((rfl | visibility) | mutability) | results
  · exact first
  · exact isNested_of_mem_wordUnless (balanced.word _) visibility
  · exact isNested_of_mem_wordUnless (balanced.word _) mutability
  · exact isNested_of_mem_wordIf returns results

end Declarations

section Assembly

/-- An assembly literal with a value is nested: that has no brackets. -/
theorem isNested_yulLiteralValue (balanced : node.Balanced) : IsNested (yulLiteralValue node) := by
  rw [yulLiteralValue]
  split
  · exact (balanced.word "value").doubleQuotes
  · exact balanced.word "value"

/-- An assembly literal is nested: neither its value nor its hexadecimal value has brackets. -/
theorem isNested_yulLiteral (balanced : node.Balanced) : IsNested (yulLiteral node) := by
  rw [yulLiteral]
  split
  · exact isNested_yulLiteralValue balanced
  · exact (balanced.word "hexValue").doubleQuotes.after "hex" rfl

/-- An assembly literal with a hexadecimal value is nested: that has no brackets. -/
theorem isNested_yulLiteralHexValue (balanced : node.Balanced) :
    IsNested (yulLiteralHexValue node) := by
  rw [yulLiteralHexValue]
  split
  · exact (balanced.word "value").after "0x" rfl
  · exact (balanced.word "value").doubleQuotes.after "hex" rfl

/-- An assembly assignment is nested: the marks in it are no brackets. -/
theorem isNested_yulAssignment (balanced : node.Balanced) : IsNested (yulAssignment node) :=
  ((IsNested.commas balanced.childCodes).before " := " rfl).append (balanced.code _)

/-- A declaration of assembly variables is nested, with or without a value. -/
theorem isNested_yulVariableDeclaration (balanced : node.Balanced) :
    IsNested (yulVariableDeclaration node) := by
  have names : IsNested (Text.commas (node.childCodes "variables")) :=
    IsNested.commas balanced.childCodes
  simp only [yulVariableDeclaration]
  split
  · rename_i found
    exact ((names.after "let " rfl).before " := " rfl).append (balanced.value? found).code
  · exact names.after "let " rfl

/-- An assembly call is nested: its arguments stand in parentheses. -/
theorem isNested_yulFunctionCall (balanced : node.Balanced) : IsNested (yulFunctionCall node) :=
  (balanced.code _).append (IsNested.commas balanced.childCodes).parens

/-- An assembly branch is nested: so are its condition and its body. -/
theorem isNested_yulIf (balanced : node.Balanced) : IsNested (yulIf node) :=
  (((balanced.code _).after "if " rfl).before " " rfl).append (balanced.code _)

/-- An assembly switch is nested: so are its expression and its cases. -/
theorem isNested_yulSwitch (balanced : node.Balanced) : IsNested (yulSwitch node) := by
  have cases : IsNested (Text.spaced (node.childCodes "cases")) :=
    IsNested.spaced balanced.childCodes
  apply IsNested.words
  simp only [List.forall_mem_cons]
  exact ⟨(balanced.code "expression").after "switch " rfl, cases, fun piece mem => by cases mem⟩

/-- An assembly case is nested: so is its body, for a value as for the default. -/
theorem isNested_yulCase (balanced : node.Balanced) : IsNested (yulCase node) := by
  rw [yulCase]
  split
  · exact (balanced.code "body").after "default " rfl
  · exact (((balanced.code _).after "case " rfl).before " " rfl).append (balanced.code _)

/-- An assembly loop is nested: so are its four parts. -/
theorem isNested_yulForLoop (balanced : node.Balanced) : IsNested (yulForLoop node) := by
  have keyword : IsNested "for" := by decide
  apply IsNested.spaced
  simp [balanced.code, keyword]

/-- An assembly function is nested: its parameters stand in parentheses before results and body. -/
theorem isNested_yulFunctionDefinition (balanced : node.Balanced) :
    IsNested (yulFunctionDefinition node) := by
  have listed (key : String) : IsNested (Text.commas (node.childCodes key)) :=
    IsNested.commas balanced.childCodes
  have header := ((balanced.word "name").after "function " rfl).append (listed "parameters").parens
  have outcome := (listed "returnVariables").after " -> " rfl
  exact ((header.append (.ite isNested_empty outcome)).before " " rfl).append (balanced.code "body")

end Assembly

end SourceTrace.Ast.Render

import SourceTrace.Ast.Render

/-!
# What the rules of rendering read

A rule reads a node through its attributes: the source text, the text or the truth value of one, or
the items of an array. `Attributes.Alike` relates attributes of which no rule can tell one from the
other by such readings; attributes that no rule reads (`Render.unread`) may differ. Two rules look
deeper, into the records of an import and of a `using` list, and they do not pass over `null` there;
what they read is compared apart, by `Attributes.SameRecords`. Together they decide the source text
of a node: `Render.codeOf_eq_of_alike`.
-/

namespace SourceTrace.Ast

section Options

variable {α β : Type} {Related : α → α → Prop} {found other : Option α}

/-- Related options are both empty, or hold related values. -/
theorem rel_cases (related : Option.Rel Related found other) :
    (found = none ∧ other = none) ∨
      ∃ value counterpart, found = some value ∧ other = some counterpart ∧
        Related value counterpart := by
  cases related with
  | none => exact .inl ⟨rfl, rfl⟩
  | some same => exact .inr ⟨_, _, rfl, rfl, same⟩

/-- A reading that gives the same for related values gives the same for related options. -/
theorem rel_congr (related : Option.Rel Related found other) (reading : Option α → β)
    (same : ∀ {value counterpart}, Related value counterpart →
      reading (some value) = reading (some counterpart)) : reading found = reading other := by
  cases related with
  | none => rfl
  | some held => exact same held

end Options

/-- Attributes that no rule reads. -/
def Render.unread : List String :=
  ["src", "id", "scope", "nameLocation", "typeDescriptions", "documentation"]

open Render (unread)

namespace Rendered

/-- What rules read of an item of an array. -/
structure Face where
  /-- Whether the item is a node. -/
  isNode : Bool
  /-- The text of a string. -/
  text? : Option String
  /-- The source text. -/
  code : String
  /-- The source texts of the attributes of a node. -/
  codes : { key : String // key ∉ unread } → String

/-- What rules read of a value as an item of an array. -/
def face (value : Rendered) : Face where
  isNode := value.isNode
  text? := value.text?
  code := value.code
  codes key := value.attributes.code key

/-- The source texts of items are those of their faces. -/
theorem map_code_eq (items : List Rendered) :
    items.map code = (items.map face).map Face.code := by
  rw [List.map_map]
  rfl

/-- Values that no rule can tell from one another where they stand under a key. -/
inductive Alike : Rendered → Rendered → Prop where
  | refl (value : Rendered) : Alike value value
  | list {items others : List Rendered} {code : String} (faces : items.map face = others.map face) :
      Alike (.list items code) (.list others code)
  | node {members others : List (String × Rendered)} {code : String}
      (codes : ∀ key ∉ unread,
        Attributes.code ⟨members⟩ key = Attributes.code ⟨others⟩ key) :
      Alike (.node members code) (.node others code)

namespace Alike

variable {value other : Rendered}

/-- Values that are alike have one face. -/
theorem face_eq (alike : value.Alike other) : value.face = other.face := by
  cases alike with
  | refl => rfl
  | list faces => rfl
  | node codes =>
    have same : (fun key : { key // key ∉ unread } => Attributes.code ⟨_⟩ key.1) = _ :=
      funext fun key => codes key.1 key.2
    simp only [face, isNode, text?, code, attributes, same]

/-- Values that are alike have one source text. -/
theorem code_eq (alike : value.Alike other) : value.code = other.code :=
  congrArg Face.code alike.face_eq

/-- Of values that are alike, both are null or none is. -/
theorem isNull_eq (alike : value.Alike other) : value.isNull = other.isNull := by
  cases alike <;> rfl

end Alike

end Rendered

/-- Attributes that differ at most in what no rule reads of them, records apart. -/
structure Attributes.Alike (first second : Attributes) : Prop where
  /-- The kinds are the same. -/
  kind? : first.kind? = second.kind?
  /-- Under every key that is read, both have values that are alike, or none. -/
  value? : ∀ key ∉ unread, Option.Rel Rendered.Alike (first.value? key) (second.value? key)

namespace Attributes.Alike

variable {first second : Attributes} {key : String}

/-- Alike attributes have the same source text under a key that is read. -/
theorem code (alike : first.Alike second) (read : key ∉ unread) :
    first.code key = second.code key :=
  rel_congr (alike.value? key read) (fun found => (found.map Rendered.code).getD "")
    fun same => same.code_eq

/-- Alike attributes have the same child text under a key that is read. -/
theorem childCode? (alike : first.Alike second) (read : key ∉ unread) :
    first.childCode? key = second.childCode? key := by
  refine rel_congr (alike.value? key read)
    (fun found => (found.filter Rendered.isNode).map Rendered.code) ?_
  intro value other same
  have isNode : value.isNode = other.isNode := congrArg Rendered.Face.isNode same.face_eq
  simp only [Option.filter_some, isNode]
  split
  · rw [Option.map_some, Option.map_some, same.code_eq]
  · rfl

/-- Alike attributes have the same text under a key that is read. -/
theorem text (alike : first.Alike second) (read : key ∉ unread) :
    first.text key = second.text key := by
  refine rel_congr (alike.value? key read) (fun found => (found.bind Rendered.text?).getD "") ?_
  intro value other same
  have text? : value.text? = other.text? := congrArg Rendered.Face.text? same.face_eq
  rw [Option.bind_some, Option.bind_some, text?]

/-- Alike attributes have the same truth value under a key that is read. -/
theorem flag? (alike : first.Alike second) (read : key ∉ unread) :
    first.flag? key = second.flag? key := by
  rw [Attributes.flag?, Attributes.flag?]
  obtain ⟨missing, otherMissing⟩ | ⟨value, other, found, otherFound, same⟩ :=
    rel_cases (alike.value? key read)
  · rw [missing, otherMissing]
  · rw [found, otherFound]
    cases same <;> rfl

/-- Alike attributes are set alike under a key that is read. -/
theorem isSet (alike : first.Alike second) (read : key ∉ unread) :
    first.isSet key = second.isSet key := by
  rw [Attributes.isSet, Attributes.isSet, alike.flag? read]

/-- The items of an array have the same faces. -/
theorem items (alike : first.Alike second) (read : key ∉ unread) :
    (first.items key).map Rendered.face = (second.items key).map Rendered.face := by
  rw [Attributes.items, Attributes.items]
  obtain ⟨missing, otherMissing⟩ | ⟨value, other, found, otherFound, same⟩ :=
    rel_cases (alike.value? key read)
  · rw [missing, otherMissing]
  · rw [found, otherFound]
    cases same with
    | refl => rfl
    | list faces => exact faces
    | node codes => rfl

/-- Alike attributes have the same slots under a key that is read. -/
theorem slots (alike : first.Alike second) (read : key ∉ unread) :
    first.slots key = second.slots key := by
  rw [Attributes.slots, Attributes.slots, Rendered.map_code_eq, Rendered.map_code_eq,
    alike.items read]

/-- Alike attributes have the same texts under a key that is read. -/
theorem texts (alike : first.Alike second) (read : key ∉ unread) :
    first.texts key = second.texts key := by
  have texts (items : List Rendered) : items.filterMap Rendered.text? =
      (items.map Rendered.face).filterMap Rendered.Face.text? := by
    rw [List.filterMap_map]
    rfl
  rw [Attributes.texts, Attributes.texts, texts, texts, alike.items read]

/-- Alike attributes have children with the same faces under a key that is read. -/
theorem children (alike : first.Alike second) (read : key ∉ unread) :
    (first.children key).map Rendered.face = (second.children key).map Rendered.face := by
  have nodes (items : List Rendered) : (items.filter Rendered.isNode).map Rendered.face =
      (items.map Rendered.face).filter Rendered.Face.isNode := by
    rw [List.filter_map]
    rfl
  rw [Attributes.children, Attributes.children, nodes, nodes, alike.items read]

/-- Alike attributes have the same child texts under a key that is read. -/
theorem childCodes (alike : first.Alike second) (read : key ∉ unread) :
    first.childCodes key = second.childCodes key := by
  rw [Attributes.childCodes, Attributes.childCodes, Rendered.map_code_eq, Rendered.map_code_eq,
    alike.children read]

end Attributes.Alike

namespace Render

/-- The symbols that an import names. -/
def importedSymbols (node : Attributes) : List String :=
  (node.items "symbolAliases").filterMap importedSymbol?

/-- The functions that a `using` list names. -/
def usedFunctions (node : Attributes) : List String :=
  (node.items "functionList").map usedFunction

end Render

open Render (importedSymbols usedFunctions)

/-- Records that are written are written alike: the symbols of an import that does not name the
whole file, and the functions of a `using` list that names no library. -/
structure Attributes.SameRecords (first second : Attributes) : Prop where
  symbols : first.kind? = some .importDirective → first.text "unitAlias" = "" →
    importedSymbols first = importedSymbols second
  functions : first.kind? = some .usingForDirective → first.childCode? "libraryName" = none →
    usedFunctions first = usedFunctions second

namespace Render

variable {first second : Attributes}

section Rules

/-- Alike attributes have the same literal value. -/
theorem literalValue_eq_of_alike (alike : first.Alike second) :
    literalValue first = literalValue second := by
  obtain ⟨missing, otherMissing⟩ | ⟨value, other, present, otherPresent, same⟩ :=
    rel_cases (alike.value? "value" (by decide))
  · simp only [literalValue, missing, otherMissing]
  · simp only [literalValue, present, otherPresent]
    cases same <;> rfl

/-- Alike attributes give the same type that is used as a value. -/
theorem elementaryTypeNameExpression_eq_of_alike (alike : first.Alike second) :
    elementaryTypeNameExpression first = elementaryTypeNameExpression second := by
  obtain ⟨unnamed, otherUnnamed⟩ | ⟨name, otherName, named, otherNamed, sameName⟩ :=
    rel_cases (alike.value? "typeName" (by decide)) <;>
  obtain ⟨missing, otherMissing⟩ | ⟨argument, other, present, otherPresent, same⟩ :=
    rel_cases (alike.value? "argument" (by decide))
  · simp only [elementaryTypeNameExpression, unnamed, otherUnnamed, missing, otherMissing]
  · simp only [elementaryTypeNameExpression, unnamed, otherUnnamed, present, otherPresent,
      same.code_eq]
  · simp only [elementaryTypeNameExpression, named, otherNamed, missing, otherMissing]
    cases sameName <;> rfl
  · simp only [elementaryTypeNameExpression, named, otherNamed, present, otherPresent,
      same.code_eq]
    cases sameName <;> rfl

/-- Alike attributes give the same parameters. -/
theorem withArguments_eq_of_alike (alike : first.Alike second) (name : String) :
    withArguments name first = withArguments name second := by
  obtain ⟨missing, otherMissing⟩ | ⟨arguments, other, present, otherPresent, same⟩ :=
    rel_cases (alike.value? "arguments" (by decide))
  · simp only [withArguments, missing, otherMissing]
  · simp only [withArguments, present, otherPresent, same.code_eq]

/-- Alike attributes give the same body. -/
theorem withBody_eq_of_alike (alike : first.Alike second) (header : List String) :
    withBody header first = withBody header second := by
  obtain ⟨missing, otherMissing⟩ | ⟨body, other, present, otherPresent, same⟩ :=
    rel_cases (alike.value? "body" (by decide))
  · simp only [withBody, missing, otherMissing]
  · simp only [withBody, present, otherPresent, same.code_eq]

/-- Alike attributes give the same declaration statement. -/
theorem variableDeclarationStatement_eq_of_alike (alike : first.Alike second) :
    variableDeclarationStatement first = variableDeclarationStatement second := by
  have slots := alike.slots (by decide : "declarations" ∉ unread)
  obtain ⟨missing, otherMissing⟩ | ⟨value, other, present, otherPresent, same⟩ :=
    rel_cases (alike.value? "initialValue" (by decide))
  · simp only [variableDeclarationStatement, slots, missing, otherMissing]
  · simp only [variableDeclarationStatement, slots, present, otherPresent, same.code_eq]

/-- Alike attributes give the same variable. -/
theorem variableDeclaration_eq_of_alike (alike : first.Alike second) :
    variableDeclaration first = variableDeclaration second := by
  obtain ⟨missing, otherMissing⟩ | ⟨value, other, present, otherPresent, same⟩ :=
    rel_cases (alike.value? "value" (by decide))
  · simp (disch := decide) only [variableDeclaration, stateVariableWords, alike.code, alike.text,
      alike.isSet, missing, otherMissing]
  · simp (disch := decide) only [variableDeclaration, stateVariableWords, alike.code, alike.text,
      alike.isSet, present, otherPresent, same.code_eq]

/-- Alike attributes give the same branch. -/
theorem ifStatement_eq_of_alike (alike : first.Alike second) :
    ifStatement first = ifStatement second := by
  obtain ⟨missing, otherMissing⟩ | ⟨body, other, present, otherPresent, same⟩ :=
    rel_cases (alike.value? "falseBody" (by decide))
  · simp (disch := decide) only [ifStatement, alike.code, missing, otherMissing]
  · simp (disch := decide) only [ifStatement, alike.code, present, otherPresent, same.code_eq]

/-- Alike attributes give the same return statement. -/
theorem returnStatement_eq_of_alike (alike : first.Alike second) :
    returnStatement first = returnStatement second := by
  obtain ⟨missing, otherMissing⟩ | ⟨value, other, present, otherPresent, same⟩ :=
    rel_cases (alike.value? "expression" (by decide))
  · simp only [returnStatement, missing, otherMissing]
  · simp only [returnStatement, present, otherPresent, same.code_eq]

/-- Alike attributes give the same revert statement. -/
theorem revertStatement_eq_of_alike (alike : first.Alike second) :
    revertStatement first = revertStatement second := by
  obtain ⟨missing, otherMissing⟩ | ⟨reason, other, present, otherPresent, same⟩ :=
    rel_cases (alike.value? "expression" (by decide))
  · simp (disch := decide) only [revertStatement, alike.childCode?, missing, otherMissing]
  · simp (disch := decide) only [revertStatement, alike.childCode?, present, otherPresent,
      same.code_eq]

/-- The success clause is read through its attributes, the handlers through their source texts. -/
theorem tryStatement_eq_of_alike (alike : first.Alike second) :
    tryStatement first = tryStatement second := by
  have call := alike.code (by decide : "externalCall" ∉ unread)
  have clauses := alike.children (by decide : "clauses" ∉ unread)
  simp only [tryStatement, call]
  generalize first.children "clauses" = children at clauses
  generalize second.children "clauses" = others at clauses
  cases children with
  | nil => rw [List.map_eq_nil_iff.mp clauses.symm]
  | cons success handlers =>
    obtain ⟨otherSuccess, otherHandlers, rfl, face, faces⟩ :=
      List.map_eq_cons_iff.mp clauses.symm
    have codes (key : String) (read : key ∉ unread) :
        otherSuccess.attributes.code key = success.attributes.code key :=
      congrFun (congrArg Rendered.Face.codes face) ⟨key, read⟩
    have written (items : List Rendered) : items.map (fun handler => " " ++ handler.code) =
        (items.map Rendered.face).map fun face => " " ++ face.code := by
      rw [List.map_map]
      rfl
    simp only [codes "parameters" (by decide), codes "block" (by decide), written, faces]

/-- Alike attributes give the same assembly literal. -/
theorem yulLiteral_eq_of_alike (alike : first.Alike second) :
    yulLiteral first = yulLiteral second := by
  obtain ⟨missing, otherMissing⟩ | ⟨value, other, present, otherPresent, same⟩ :=
    rel_cases (alike.value? "value" (by decide))
  · simp (disch := decide) only [yulLiteral, alike.text, missing, otherMissing]
  · simp (disch := decide) only [yulLiteral, alike.text, present, otherPresent]

/-- Alike attributes give the same declaration of assembly variables. -/
theorem yulVariableDeclaration_eq_of_alike (alike : first.Alike second) :
    yulVariableDeclaration first = yulVariableDeclaration second := by
  obtain ⟨missing, otherMissing⟩ | ⟨value, other, present, otherPresent, same⟩ :=
    rel_cases (alike.value? "value" (by decide))
  · simp (disch := decide) only [yulVariableDeclaration, alike.childCodes, missing, otherMissing]
  · simp (disch := decide) only [yulVariableDeclaration, alike.childCodes, present, otherPresent,
      same.code_eq]

/-- Alike attributes give the same assembly case. -/
theorem yulCase_eq_of_alike (alike : first.Alike second) : yulCase first = yulCase second := by
  obtain ⟨missing, otherMissing⟩ | ⟨value, other, present, otherPresent, same⟩ :=
    rel_cases (alike.value? "value" (by decide))
  · simp (disch := decide) only [yulCase, alike.code, missing, otherMissing]
  · simp (disch := decide) only [yulCase, alike.code, present, otherPresent]
    cases same <;> rfl

/-- Alike attributes give the same import if the symbols are the same where they are read. -/
theorem importDirective_eq_of_alike (alike : first.Alike second)
    (symbols : first.text "unitAlias" = "" → importedSymbols first = importedSymbols second) :
    importDirective first = importDirective second := by
  have named := alike.text (by decide : "unitAlias" ∉ unread)
  simp only [importDirective, alike.text (by decide : "file" ∉ unread),
    alike.text (by decide : "absolutePath" ∉ unread), ← named]
  split
  · rfl
  · rename_i unnamed
    have same : (first.items "symbolAliases").filterMap importedSymbol? =
        (second.items "symbolAliases").filterMap importedSymbol? := symbols (by simpa using unnamed)
    simp only [same]

/-- Alike attributes give the same using directive if the functions are the same where they are
read. -/
theorem usingForDirective_eq_of_alike (alike : first.Alike second)
    (functions : first.childCode? "libraryName" = none →
      usedFunctions first = usedFunctions second) :
    usingForDirective first = usingForDirective second := by
  have library := alike.childCode? (by decide : "libraryName" ∉ unread)
  simp only [usingForDirective, alike.childCode? (by decide : "typeName" ∉ unread),
    alike.isSet (by decide : "global" ∉ unread), ← library]
  cases named : first.childCode? "libraryName" with
  | some code => rfl
  | none =>
    have same : (first.items "functionList").map usedFunction =
        (second.items "functionList").map usedFunction := functions named
    simp only [same]

end Rules

/-- The text of a node of a given kind is decided by what rules read. -/
theorem codeOfKind_eq_of_alike (alike : first.Alike second) (kind : Kind)
    (symbols : kind = .importDirective → first.text "unitAlias" = "" →
      importedSymbols first = importedSymbols second)
    (functions : kind = .usingForDirective → first.childCode? "libraryName" = none →
      usedFunctions first = usedFunctions second) :
    codeOfKind first kind = codeOfKind second kind := by
  cases kind with
  | identifier | identifierPath | enumValue | yulIdentifier | yulTypedName =>
    exact alike.text (by decide)
  | typeDescriptions => exact alike.text (by decide)
  | literal =>
    simp (disch := decide) only [codeOfKind, literal, literalValue_eq_of_alike alike, alike.text]
  | binaryOperation | unaryOperation | assignment | conditional | functionCall | functionCallOptions
  | memberAccess | indexAccess | indexRangeAccess | tupleExpression | newExpression =>
    simp (disch := decide) only [codeOfKind, binaryOperation, unaryOperation, assignment,
      conditional, functionCall, functionCallOptions, memberAccess, indexAccess, indexRangeAccess,
      tupleExpression, newExpression, alike.code, alike.text, alike.flag?, alike.isSet,
      alike.childCodes, alike.slots, alike.texts]
  | elementaryTypeNameExpression => exact elementaryTypeNameExpression_eq_of_alike alike
  | block | yulBlock | uncheckedBlock | expressionStatement | whileStatement | doWhileStatement
  | forStatement | emitStatement | tryCatchClause | inlineAssembly =>
    simp (disch := decide) only [codeOfKind, block, whileStatement, doWhileStatement, forStatement,
      tryCatchClause, inlineAssembly, alike.code, alike.text, alike.childCode?, alike.childCodes,
      alike.texts]
  | variableDeclarationStatement => exact variableDeclarationStatement_eq_of_alike alike
  | ifStatement => exact ifStatement_eq_of_alike alike
  | returnStatement => exact returnStatement_eq_of_alike alike
  | revertStatement => exact revertStatement_eq_of_alike alike
  | tryStatement => exact tryStatement_eq_of_alike alike
  | sourceUnit | pragmaDirective | contractDefinition | structDefinition | enumDefinition
  | eventDefinition | errorDefinition | userDefinedValueTypeDefinition | overrideSpecifier
  | parameterList | structuredDocumentation | storageLayoutSpecifier | elementaryTypeName
  | userDefinedTypeName | arrayTypeName | mappingType | functionTypeName =>
    simp (disch := decide) only [codeOfKind, pragmaDirective, contractDefinition, structDefinition,
      enumDefinition, eventDefinition, errorDefinition, valueTypeDefinition, overrideSpecifier,
      structuredDocumentation, elementaryTypeName, userDefinedTypeName, arrayTypeName,
      mappingTypeName, functionTypeName, alike.code, alike.text, alike.isSet, alike.childCode?,
      alike.childCodes, alike.texts]
  | importDirective => exact importDirective_eq_of_alike alike (symbols rfl)
  | usingForDirective => exact usingForDirective_eq_of_alike alike (functions rfl)
  | inheritanceSpecifier | modifierInvocation =>
    simp (disch := decide) only [codeOfKind, withArguments_eq_of_alike alike, alike.code]
  | functionDefinition | modifierDefinition =>
    simp (disch := decide) only [codeOfKind, functionDefinition, modifierDefinition, functionName,
      withBody_eq_of_alike alike, alike.code, alike.text, alike.isSet, alike.childCodes]
  | variableDeclaration => exact variableDeclaration_eq_of_alike alike
  | yulLiteral => exact yulLiteral_eq_of_alike alike
  | yulVariableDeclaration => exact yulVariableDeclaration_eq_of_alike alike
  | yulCase => exact yulCase_eq_of_alike alike
  | yulLiteralValue | yulLiteralHexValue | yulAssignment | yulFunctionCall | yulExpressionStatement
  | yulIf | yulSwitch | yulForLoop | yulFunctionDefinition =>
    simp (disch := decide) only [codeOfKind, yulLiteralValue, yulLiteralHexValue, yulAssignment,
      yulFunctionCall, yulIf, yulSwitch, yulForLoop, yulFunctionDefinition, alike.code, alike.text,
      alike.childCodes]
  | breakStatement | continueStatement | placeholderStatement | yulBreak | yulContinue | yulLeave
  | unknown _ => rfl

/-- Attributes that no rule tells apart have the same source text. -/
theorem codeOf_eq_of_alike (alike : first.Alike second) (records : first.SameRecords second) :
    codeOf first = codeOf second := by
  rw [codeOf, codeOf, ← alike.kind?]
  cases known : first.kind? with
  | none => rfl
  | some kind =>
    apply codeOfKind_eq_of_alike alike
    · rintro rfl unnamed
      exact records.symbols known unnamed
    · rintro rfl missing
      exact records.functions known missing

end Render

end SourceTrace.Ast

import SourceTrace.Proofs.Ast.Brackets.Rules

/-!
# Brackets in rendered source text

Every rule of rendering writes its brackets in pairs, so the source text of a tree is nested as soon
as the texts that the tree holds have no brackets of their own. `isNested_unparse` says so for every
tree, also for one whose attributes are missing or of the wrong type.
-/

namespace SourceTrace.Json

mutual

/-- Whether all texts in a value pass a test. Keys are no texts of the value. -/
def allTexts (test : String → Bool) : Json → Bool
  | .str text => test text
  | .arr items => allTextsOfItems test items
  | .obj members => allTextsOfMembers test members
  | _ => true

/-- Whether all texts in the items of an array pass a test. -/
def allTextsOfItems (test : String → Bool) : List Json → Bool
  | [] => true
  | item :: rest => allTexts test item && allTextsOfItems test rest

/-- Whether all texts in the values of members pass a test. -/
def allTextsOfMembers (test : String → Bool) : List (String × Json) → Bool
  | [] => true
  | (_, value) :: rest => allTexts test value && allTextsOfMembers test rest

end

end SourceTrace.Json

namespace SourceTrace.Ast

open Text (IsNested isPlain)

/-- All kinds in the table of tags have a rule. -/
theorem Kind.isKnown_of_mem_tags : ∀ entry ∈ Kind.tags, entry.2.isKnown = true := by
  decide

/-- A tag that is not known is kept as it is. -/
theorem Kind.eq_of_ofTag_eq_unknown {tag other : String}
    (unknown : Kind.ofTag tag = .unknown other) :
    other = tag := by
  rw [Kind.ofTag] at unknown
  cases found : Kind.tags.lookup tag with
  | none =>
    rw [found] at unknown
    cases unknown
    rfl
  | some kind =>
    rw [found, Option.getD_some] at unknown
    obtain ⟨before, after, split, -⟩ := List.lookup_eq_some_iff.mp found
    have known := Kind.isKnown_of_mem_tags (tag, kind)
      (split ▸ List.mem_append_right before List.mem_cons_self)
    rw [unknown] at known
    cases known

namespace Render

variable {node : Attributes}

/-- The rule of a kind writes a nested text, if the tag that an unknown kind shows has no
brackets. -/
theorem isNested_codeOfKind (balanced : node.Balanced) (kind : Kind)
    (plain : ∀ tag, kind = .unknown tag → isPlain tag = true) :
    IsNested (codeOfKind node kind) := by
  cases kind with
  | literal => exact isNested_literal balanced
  | identifier | identifierPath | enumValue | yulIdentifier | yulTypedName =>
    exact balanced.word "name"
  | binaryOperation => exact isNested_binaryOperation balanced
  | unaryOperation => exact isNested_unaryOperation balanced
  | assignment => exact isNested_assignment balanced
  | conditional => exact isNested_conditional balanced
  | functionCall => exact isNested_functionCall balanced
  | functionCallOptions => exact isNested_functionCallOptions balanced
  | memberAccess => exact isNested_memberAccess balanced
  | indexAccess => exact isNested_indexAccess balanced
  | indexRangeAccess => exact isNested_indexRangeAccess balanced
  | tupleExpression => exact isNested_tupleExpression balanced
  | newExpression => exact (balanced.code "typeName").after "new " rfl
  | elementaryTypeNameExpression => exact isNested_elementaryTypeNameExpression balanced
  | typeDescriptions => exact balanced.word "typeString"
  | block | yulBlock => exact isNested_block balanced "statements"
  | uncheckedBlock => exact (isNested_block balanced "statements").after "unchecked " rfl
  | expressionStatement => exact (balanced.code "expression").before ";" rfl
  | variableDeclarationStatement => exact isNested_variableDeclarationStatement balanced
  | ifStatement => exact isNested_ifStatement balanced
  | whileStatement => exact isNested_whileStatement balanced
  | doWhileStatement => exact isNested_doWhileStatement balanced
  | forStatement => exact isNested_forStatement balanced
  | returnStatement => exact isNested_returnStatement balanced
  | emitStatement => exact ((balanced.code "eventCall").after "emit " rfl).before ";" rfl
  | revertStatement => exact isNested_revertStatement balanced
  | tryStatement => exact isNested_tryStatement balanced
  | tryCatchClause => exact isNested_tryCatchClause balanced
  | inlineAssembly => exact isNested_inlineAssembly balanced
  | sourceUnit => exact IsNested.intercalate (by decide) balanced.childCodes
  | pragmaDirective => exact isNested_pragmaDirective balanced
  | importDirective => exact isNested_importDirective balanced
  | contractDefinition => exact isNested_contractDefinition balanced
  | inheritanceSpecifier => exact isNested_withArguments (balanced.code "baseName") balanced
  | usingForDirective => exact isNested_usingForDirective balanced
  | structDefinition => exact isNested_structDefinition balanced
  | enumDefinition => exact isNested_enumDefinition balanced
  | eventDefinition => exact isNested_eventDefinition balanced
  | errorDefinition => exact isNested_errorDefinition balanced
  | userDefinedValueTypeDefinition => exact isNested_valueTypeDefinition balanced
  | functionDefinition => exact isNested_functionDefinition balanced
  | modifierDefinition => exact isNested_modifierDefinition balanced
  | modifierInvocation => exact isNested_withArguments (balanced.code "modifierName") balanced
  | overrideSpecifier => exact isNested_overrideSpecifier balanced
  | parameterList => exact IsNested.commas balanced.childCodes
  | variableDeclaration => exact isNested_variableDeclaration balanced
  | structuredDocumentation => exact isNested_structuredDocumentation balanced
  | storageLayoutSpecifier => exact (balanced.code "baseSlotExpression").after "layout at " rfl
  | elementaryTypeName => exact isNested_elementaryTypeName balanced
  | userDefinedTypeName => exact isNested_userDefinedTypeName balanced
  | arrayTypeName => exact isNested_arrayTypeName balanced
  | mappingType => exact isNested_mappingTypeName balanced
  | functionTypeName => exact isNested_functionTypeName balanced
  | yulLiteral => exact isNested_yulLiteral balanced
  | yulLiteralValue => exact isNested_yulLiteralValue balanced
  | yulLiteralHexValue => exact isNested_yulLiteralHexValue balanced
  | yulAssignment => exact isNested_yulAssignment balanced
  | yulVariableDeclaration => exact isNested_yulVariableDeclaration balanced
  | yulFunctionCall => exact isNested_yulFunctionCall balanced
  | yulExpressionStatement => exact balanced.code "expression"
  | yulIf => exact isNested_yulIf balanced
  | yulSwitch => exact isNested_yulSwitch balanced
  | yulCase => exact isNested_yulCase balanced
  | yulForLoop => exact isNested_yulForLoop balanced
  | yulFunctionDefinition => exact isNested_yulFunctionDefinition balanced
  | breakStatement => exact (by decide : IsNested "break;")
  | continueStatement => exact (by decide : IsNested "continue;")
  | placeholderStatement => exact (by decide : IsNested "_;")
  | yulBreak => exact (by decide : IsNested "break")
  | yulContinue => exact (by decide : IsNested "continue")
  | yulLeave => exact (by decide : IsNested "leave")
  | unknown tag =>
    exact ((Text.isNested_of_isPlain (plain tag rfl)).after "<unhandled " rfl).before ">" rfl

/-- The text of a node is nested, whatever its kind. -/
theorem isNested_codeOf (balanced : node.Balanced) : IsNested (codeOf node) := by
  rw [codeOf]
  split
  · rename_i kind found
    obtain ⟨tag, read, rfl⟩ := Option.map_eq_some_iff.mp found
    obtain ⟨value, present, tagRead⟩ := Option.bind_eq_some_iff.mp read
    have plain := (Rendered.Balanced.of_lookup balanced present).text? tagRead
    apply isNested_codeOfKind balanced
    intro other unknown
    rwa [Kind.eq_of_ofTag_eq_unknown unknown]
  · exact Text.isNested_empty

end Render

mutual

/-- Rendering keeps values balanced. -/
theorem balanced_rendered :
    ∀ value : Json, value.allTexts isPlain = true → (rendered value).Balanced
  | .null, _ => .null
  | .bool value, _ => .bool value
  | .num value, _ => .num value
  | .str _, plain => .str plain
  | .arr items, plain => by
    have parts := balanced_renderedItems items plain
    refine .list parts (IsNested.commas ?_)
    intro code mem
    obtain ⟨part, member, rfl⟩ := List.mem_map.mp mem
    exact (parts part member).code
  | .obj members, plain =>
    have parts := balanced_renderedMembers members plain
    .node parts (Render.isNested_codeOf parts)

/-- What is known about the items of an array without brackets is balanced. -/
theorem balanced_renderedItems :
    ∀ items : List Json, Json.allTextsOfItems isPlain items = true →
      ∀ part ∈ renderedItems items, part.Balanced
  | [], _ => by simp [renderedItems]
  | item :: rest, plain => by
    simp only [Json.allTextsOfItems, Bool.and_eq_true] at plain
    intro part mem
    rcases List.mem_cons.mp mem with rfl | later
    · exact balanced_rendered item plain.1
    · exact balanced_renderedItems rest plain.2 part later

/-- What is known about the members of an object without brackets is balanced. -/
theorem balanced_renderedMembers :
    ∀ members : List (String × Json), Json.allTextsOfMembers isPlain members = true →
      ∀ part ∈ renderedMembers members, part.2.Balanced
  | [], _ => by simp [renderedMembers]
  | (key, value) :: rest, plain => by
    simp only [Json.allTextsOfMembers, Bool.and_eq_true] at plain
    intro part mem
    rcases List.mem_cons.mp mem with rfl | later
    · exact balanced_rendered value plain.1
    · exact balanced_renderedMembers rest plain.2 part later

end

/-- The source text of a tree is nested if no text in the tree has a bracket. -/
theorem isNested_unparse (value : Json) (plain : value.allTexts isPlain = true) :
    IsNested (unparse value) :=
  (balanced_rendered value plain).code

/-- A loop without a start, with a `null` condition, a step that loses its semicolon, a call whose
arguments are no array, and a body of an unknown kind that has a key of brackets. -/
def loopWithGaps : Json :=
  .obj [("nodeType", .str "ForStatement"), ("condition", .null),
    ("loopExpression", .obj [("nodeType", .str "ExpressionStatement"),
      ("expression", .obj [("nodeType", .str "FunctionCall"), ("arguments", .bool true),
        ("expression", .obj [("nodeType", .str "Identifier"), ("name", .str "f")])])]),
    ("body", .obj [("nodeType", .str "Sentence"), ("((", .str "a")])]

/-- A loop without a start and a condition is nested, and so is a statement that is not handled. -/
theorem isNested_unparse_loopWithGaps :
    loopWithGaps.allTexts isPlain = true ∧
      unparse loopWithGaps = "for (; ; f()) <unhandled Sentence>" ∧
      IsNested (unparse loopWithGaps) :=
  ⟨by decide, by decide, isNested_unparse loopWithGaps (by decide)⟩

end SourceTrace.Ast

import Mathlib.Data.List.Forall2
import SourceTrace.Proofs.Ast.Expression
import SourceTrace.Proofs.Text.Joining

/-!
# Calls with string arguments

A string is written between double quotes as it is, so a double quote in a value reads as the end of
the string. The arguments of a call are written as if they were a single string, in which the values
have `", "` between them: `Text.commas_map_doubleQuotes`. Calls that differ in their strings have
the same text just if their values are the same when they are joined in this way, and only values
that hold `", ` can be mistaken: `unparse_eq_iff_of_callsWith`.
-/

namespace SourceTrace

namespace Text

/-- What is written between the values of two strings. -/
def betweenStrings : String := "\", \""

/-- Strings with commas between them are written as one string. -/
theorem commas_map_doubleQuotes {values : List String} (nonempty : values ≠ []) :
    commas (values.map doubleQuotes) = doubleQuotes (betweenStrings.intercalate values) := by
  have between : betweenStrings = "\"" ++ ", " ++ "\"" := by decide
  induction values with
  | nil => exact absurd rfl nonempty
  | cons value values inductionHypothesis =>
    cases values with
    | nil => simp [commas]
    | cons next values =>
      have rest := inductionHypothesis (by simp)
      rw [commas, List.map_cons] at rest
      rw [commas, List.map_cons, List.map_cons, String.intercalate_cons_cons, rest,
        String.intercalate_cons_cons, between]
      simp only [doubleQuotes, String.append_assoc]

/-- Strings with commas between them are written the same just if both are none, or both are some
and their values are joined to the same text. -/
theorem commas_map_doubleQuotes_eq_iff {values others : List String} :
    commas (values.map doubleQuotes) = commas (others.map doubleQuotes) ↔
      (values = [] ↔ others = []) ∧
        betweenStrings.intercalate values = betweenStrings.intercalate others := by
  have written (value : String) : doubleQuotes value ≠ "" := by simp [doubleQuotes]
  have none : commas ([].map doubleQuotes) = "" := rfl
  by_cases empty : values = [] <;> by_cases otherEmpty : others = []
  · simp [empty, otherEmpty]
  · rw [commas_map_doubleQuotes otherEmpty, empty, none]
    simp [otherEmpty, (written _).symm]
  · rw [commas_map_doubleQuotes empty, otherEmpty, none]
    simp [empty, written]
  · rw [commas_map_doubleQuotes empty, commas_map_doubleQuotes otherEmpty]
    simp [empty, otherEmpty, doubleQuotes]

/-- Values that do not hold `", ` can be told from how they are joined. -/
theorem eq_of_intercalate_betweenStrings_eq {values others : List String}
    (clear : ∀ value ∈ values ++ others, ¬ "\", ".toList <:+: value.toList)
    (together : values = [] ↔ others = [])
    (same : betweenStrings.intercalate values = betweenStrings.intercalate others) :
    values = others := by
  by_cases empty : values = []
  · rw [empty, together.mp empty]
  · have between : betweenStrings.toList = '"' :: [',', ' '] ++ ['"'] := by decide
    rw [← String.toList_inj, String.toList_intercalate, String.toList_intercalate,
      between] at same
    have lists : values.map String.toList = others.map String.toList := by
      refine intercalate_inj_of_clear (by decide) ['"'] ?_ ?_ ?_ ?_ same
      · simpa using fun value mem => clear value (List.mem_append_left _ mem)
      · simpa using fun value mem => clear value (List.mem_append_right _ mem)
      · simpa using empty
      · simpa using fun otherEmpty => empty (together.mpr otherEmpty)
    exact List.map_injective_iff.mpr (fun _ _ => String.toList_inj.mp) lists

end Text

namespace Ast

namespace Node

/-- A node is a string literal with a value. -/
structure IsString (node : Node) (value : String) : Prop where
  tagged : node.tag? = some "Literal"
  kind : node.text "kind" = "string"
  valued : node.attribute? "value" = some (.str value)
  unitless : node.text "subdenomination" = ""

/-- A node is a call of an identifier with strings as its arguments, which have no names. -/
structure CallsWith (node : Node) (callee : String) (values : List String) : Prop where
  tagged : node.tag? = some "FunctionCall"
  unnamed : node.attribute? "names" = none ∨ node.attribute? "names" = some (.arr [])
  called : ∃ identifier, node.child? "expression" = some identifier ∧
    identifier.tag? = some "Identifier" ∧ identifier.text "name" = callee
  listed : ∃ strings : List Node,
    node.attribute? "arguments" = some (.arr (strings.map toJson)) ∧
      List.Forall₂ IsString strings values

/-- A string literal. -/
def string (value : String) : Node :=
  ⟨[("nodeType", .str "Literal"), ("kind", .str "string"), ("value", .str value)]⟩

/-- A call of an identifier with strings as its arguments. -/
def stringCall (callee : String) (values : List String) : Node :=
  ⟨[("nodeType", .str "FunctionCall"),
    ("expression", .obj [("nodeType", .str "Identifier"), ("name", .str callee)]),
    ("arguments", .arr ((values.map string).map toJson))]⟩

/-- A string literal is one. -/
theorem isString_string (value : String) : (string value).IsString value :=
  ⟨rfl, rfl, rfl, rfl⟩

/-- Every call with strings has a node. -/
theorem callsWith_stringCall (callee : String) (values : List String) :
    (stringCall callee values).CallsWith callee values where
  tagged := rfl
  unnamed := .inl rfl
  called := ⟨_, rfl, rfl, rfl⟩
  listed := by
    refine ⟨values.map string, rfl, ?_⟩
    rw [List.forall₂_map_left_iff]
    exact List.forall₂_same.mpr fun value _ => isString_string value

/-- A string literal is written as its value in quotes. -/
theorem IsString.unparse_eq {node : Node} {value : String} (isString : node.IsString value) :
    node.unparse = Text.doubleQuotes value := by
  have valued : Render.literalValue node.rendered = value := by
    rw [Render.literalValue, value?_rendered, isString.valued]
    rfl
  rw [unparse_of_tag? isString.tagged]
  change Render.literal node.rendered = _
  simp [Render.literal, valued, text_rendered, isString.kind, isString.unitless]

/-- A call with strings is written as its callee and the quoted values in parentheses. -/
theorem CallsWith.unparse_eq {node : Node} {callee : String} {values : List String}
    (calls : node.CallsWith callee values) :
    node.unparse = callee ++ Text.parens (Text.commas (values.map Text.doubleQuotes)) := by
  obtain ⟨identifier, child, identifierTagged, named⟩ := calls.called
  obtain ⟨strings, arguments, pairs⟩ := calls.listed
  have calleeText : identifier.unparse = callee := by
    rw [unparse_of_tag? identifierTagged, ← named, ← text_rendered]
    rfl
  have texts : node.rendered.childCodes "arguments" = values.map Text.doubleQuotes := by
    have nodes : (strings.map toJson).filter Json.isObject = strings.map toJson :=
      List.filter_eq_self.mpr (by simp [toJson, Json.isObject])
    rw [childCodes_rendered arguments, nodes, List.map_map, ← List.forall₂_eq_eq_eq,
      List.forall₂_map_left_iff, List.forall₂_map_right_iff]
    exact pairs.imp fun string value isString => isString.unparse_eq
  rw [unparse_of_tag? calls.tagged]
  change Render.functionCall node.rendered = _
  simp [Render.functionCall, Expression.texts_names_rendered calls.unnamed, texts,
    code_rendered_of_child? child, calleeText]

end Node

/-- Calls of the same identifier with strings have the same text just if both have no arguments, or
both have some and the values have the same text with `", "` between them. Values that do not hold
`", ` can be read back. -/
theorem unparse_eq_iff_of_callsWith {first second : Node} {callee : String}
    {values others : List String} (calls : first.CallsWith callee values)
    (otherCalls : second.CallsWith callee others) :
    (first.unparse = second.unparse ↔
      (values = [] ↔ others = []) ∧
        Text.betweenStrings.intercalate values = Text.betweenStrings.intercalate others) ∧
    ((∀ value ∈ values ++ others, ¬ "\", ".toList <:+: value.toList) →
      first.unparse = second.unparse → values = others) := by
  have texts : first.unparse = second.unparse ↔
      (values = [] ↔ others = []) ∧
        Text.betweenStrings.intercalate values = Text.betweenStrings.intercalate others := by
    rw [calls.unparse_eq, otherCalls.unparse_eq, ← Text.commas_map_doubleQuotes_eq_iff]
    simp [Text.parens]
  refine ⟨texts, fun clear same => ?_⟩
  obtain ⟨together, joined⟩ := texts.mp same
  exact Text.eq_of_intercalate_betweenStrings_eq clear together joined

/-- Calls with two strings in different order are told apart. -/
theorem unparse_eq_iff_of_callsWith_two_strings :
    (Node.stringCall "f" ["a", "b"]).unparse ≠ (Node.stringCall "f" ["b", "a"]).unparse := by
  intro same
  have read := (unparse_eq_iff_of_callsWith (Node.callsWith_stringCall "f" ["a", "b"])
    (Node.callsWith_stringCall "f" ["b", "a"])).2 (by decide) same
  exact absurd read (by decide)

/-- Two strings and one string that holds their quotes are written the same. -/
theorem unparse_stringCall_quoted :
    (["a", "b"] : List String) ≠ ["a\", \"b"] ∧
      (Node.stringCall "f" ["a", "b"]).unparse = "f(\"a\", \"b\")" ∧
      (Node.stringCall "f" ["a\", \"b"]).unparse = "f(\"a\", \"b\")" := by
  decide

end Ast

end SourceTrace

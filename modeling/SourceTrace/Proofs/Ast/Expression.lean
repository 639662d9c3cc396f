import SourceTrace.Proofs.Ast.Attributes

/-!
# Expressions as nodes

`Expression` is the part of the expression language whose texts say all about them: names, numerals,
operations in brackets, member and element access, calls, tuples and inline arrays. Its words and
its lists of components cannot be ill-formed. `Expression.Encodes` says which nodes stand for an
expression; they may have any further attributes. Every expression has such a node
(`encodes_toNode`), and all its nodes have the text of the expression (`unparse_of_encodes`).
-/

namespace SourceTrace.Ast

/-- Characters that structure the text of an expression. -/
def isDelimiter (c : Char) : Bool :=
  [' ', ',', '.', '(', ')', '[', ']'].contains c

/-- Characters of names. -/
def isWordCharacter (c : Char) : Bool :=
  c.isAlphanum || c = '_' || c = '$'

/-- Characters of operators. -/
def isOperatorCharacter (c : Char) : Bool :=
  ['+', '-', '*', '/', '%', '&', '|', '^', '<', '>', '=', '!'].contains c

/-- A word of letters, digits, `_` and `$` that does not start with a digit. -/
abbrev Name : Type :=
  { text : String // text.toList.all isWordCharacter = true ∧
    text.toList.head?.any (fun c => !c.isDigit) = true }

/-- A word of digits. -/
abbrev Digits : Type :=
  { text : String // text.toList.all Char.isDigit = true ∧ text ≠ "" }

/-- A word of operator characters. -/
abbrev Operator : Type :=
  { text : String // text.toList.all isOperatorCharacter = true ∧ text ≠ "" }

/-- The name of a member: every text without delimiters, be it a word or not. -/
abbrev MemberName : Type :=
  { text : String // text.toList.all (fun c => !isDelimiter c) = true }

/-- An expression. -/
inductive Expression where
  /-- An identifier. -/
  | identifier (name : Name)
  /-- A number without a unit. -/
  | number (digits : Digits)
  /-- An operation on two operands. -/
  | binary (left : Expression) (operator : Operator) (right : Expression)
  /-- A member of a value. -/
  | member (object : Expression) (name : MemberName)
  /-- An element of an array or a mapping, or the type of arrays where there is no position. -/
  | index (base : Expression) (position : Option Expression)
  /-- A call with positional arguments. -/
  | call (callee : Expression) (arguments : List Expression)
  /-- A tuple with one component, which is there. -/
  | group (inner : Expression)
  /-- A tuple with two components or more, of which each may be missing. -/
  | tuple (first second : Option Expression) (rest : List (Option Expression))
  /-- An inline array in which some component is there: how many are missing in front, the first
  that is there, and the others. -/
  | array (missing : Nat) (first : Expression) (rest : List (Option Expression))

namespace Expression

section Nodes

mutual

/-- A node stands for an expression. -/
def Encodes : Expression → Node → Prop
  | .identifier name, node => node.tag? = some "Identifier" ∧ node.text "name" = name.1
  | .number digits, node =>
    node.tag? = some "Literal" ∧ node.text "kind" = "number" ∧
      node.attribute? "value" = some (.str digits.1) ∧ node.text "subdenomination" = ""
  | .binary left operator right, node =>
    node.tag? = some "BinaryOperation" ∧ node.text "operator" = operator.1 ∧
      (∃ inner, node.child? "leftExpression" = some inner ∧ left.Encodes inner) ∧
      (∃ inner, node.child? "rightExpression" = some inner ∧ right.Encodes inner)
  | .member object name, node =>
    node.tag? = some "MemberAccess" ∧ node.text "memberName" = name.1 ∧
      ∃ inner, node.child? "expression" = some inner ∧ object.Encodes inner
  | .index base position, node =>
    node.tag? = some "IndexAccess" ∧
      (∃ inner, node.child? "baseExpression" = some inner ∧ base.Encodes inner) ∧
      SlotEncodes position ((node.attribute? "indexExpression").getD .null)
  | .call callee arguments, node =>
    node.tag? = some "FunctionCall" ∧
      (node.attribute? "names" = none ∨ node.attribute? "names" = some (.arr [])) ∧
      (∃ inner, node.child? "expression" = some inner ∧ callee.Encodes inner) ∧
      (∃ items, node.attribute? "arguments" = some (.arr items) ∧
        ArgumentsEncode arguments items)
  | .group inner, node =>
    node.tag? = some "TupleExpression" ∧ node.flag? "isInlineArray" ≠ some true ∧
      ∃ item : Node, node.attribute? "components" = some (.arr [item.toJson]) ∧
      inner.Encodes item
  | .tuple first second rest, node =>
    node.tag? = some "TupleExpression" ∧ node.flag? "isInlineArray" ≠ some true ∧
      ∃ item next items, node.attribute? "components" = some (.arr (item :: next :: items)) ∧
        SlotEncodes first item ∧ SlotEncodes second next ∧ SlotsEncode rest items
  | .array missing first rest, node =>
    node.tag? = some "TupleExpression" ∧ node.flag? "isInlineArray" = some true ∧
      ∃ item : Node, ∃ items,
        node.attribute? "components" =
          some (.arr (List.replicate missing .null ++ item.toJson :: items)) ∧
        first.Encodes item ∧ SlotsEncode rest items

/-- A value stands for a component: a node for an expression, and `null` for a missing one. -/
def SlotEncodes : Option Expression → Json → Prop
  | none, item => item = .null
  | some expression, item => ∃ node : Node, item = node.toJson ∧ expression.Encodes node

/-- Values stand for components. -/
def SlotsEncode : List (Option Expression) → List Json → Prop
  | [], items => items = []
  | slot :: slots, items =>
    ∃ item rest, items = item :: rest ∧ SlotEncodes slot item ∧ SlotsEncode slots rest

/-- Nodes stand for arguments. -/
def ArgumentsEncode : List Expression → List Json → Prop
  | [], items => items = []
  | argument :: arguments, items =>
    ∃ node : Node, ∃ rest, items = node.toJson :: rest ∧ argument.Encodes node ∧
      ArgumentsEncode arguments rest

end

mutual

/-- The node for an expression that has the attributes it needs and no others. -/
def toNode : Expression → Node
  | .identifier name => ⟨[("nodeType", .str "Identifier"), ("name", .str name.1)]⟩
  | .number digits =>
    ⟨[("nodeType", .str "Literal"), ("kind", .str "number"), ("value", .str digits.1)]⟩
  | .binary left operator right =>
    ⟨[("nodeType", .str "BinaryOperation"), ("operator", .str operator.1),
      ("leftExpression", left.toNode.toJson), ("rightExpression", right.toNode.toJson)]⟩
  | .member object name =>
    ⟨[("nodeType", .str "MemberAccess"), ("memberName", .str name.1),
      ("expression", object.toNode.toJson)]⟩
  | .index base position =>
    ⟨[("nodeType", .str "IndexAccess"), ("baseExpression", base.toNode.toJson),
      ("indexExpression", slotItem position)]⟩
  | .call callee arguments =>
    ⟨[("nodeType", .str "FunctionCall"), ("expression", callee.toNode.toJson),
      ("arguments", .arr (argumentItems arguments))]⟩
  | .group inner =>
    ⟨[("nodeType", .str "TupleExpression"), ("components", .arr [inner.toNode.toJson])]⟩
  | .tuple first second rest =>
    ⟨[("nodeType", .str "TupleExpression"),
      ("components", .arr (slotItem first :: slotItem second :: slotItems rest))]⟩
  | .array missing first rest =>
    ⟨[("nodeType", .str "TupleExpression"), ("isInlineArray", .bool true),
      ("components",
        .arr (List.replicate missing .null ++ first.toNode.toJson :: slotItems rest))]⟩

/-- The value for a component. -/
def slotItem : Option Expression → Json
  | none => .null
  | some expression => expression.toNode.toJson

/-- The values for components. -/
def slotItems : List (Option Expression) → List Json
  | [] => []
  | slot :: slots => slotItem slot :: slotItems slots

/-- The nodes for arguments. -/
def argumentItems : List Expression → List Json
  | [] => []
  | argument :: arguments => argument.toNode.toJson :: argumentItems arguments

end

mutual

/-- Every expression has a node that stands for it. -/
theorem encodes_toNode : (expression : Expression) → expression.Encodes expression.toNode
  | .identifier _ => ⟨rfl, rfl⟩
  | .number _ => ⟨rfl, rfl, rfl, rfl⟩
  | .binary left _ right =>
    ⟨rfl, rfl, ⟨_, rfl, encodes_toNode left⟩, ⟨_, rfl, encodes_toNode right⟩⟩
  | .member object _ => ⟨rfl, rfl, _, rfl, encodes_toNode object⟩
  | .index base position => by
    refine ⟨rfl, ⟨_, rfl, encodes_toNode base⟩, ?_⟩
    have kept : ((toNode (.index base position)).attribute? "indexExpression").getD .null =
        slotItem position := by cases position <;> rfl
    rw [kept]
    exact slotEncodes_item position
  | .call callee arguments =>
    ⟨rfl, .inl rfl, ⟨_, rfl, encodes_toNode callee⟩,
      ⟨_, rfl, argumentsEncode_items arguments⟩⟩
  | .group inner => ⟨rfl, nofun, _, rfl, encodes_toNode inner⟩
  | .tuple first second rest =>
    ⟨rfl, nofun, _, _, _, rfl, slotEncodes_item first, slotEncodes_item second,
      slotsEncode_items rest⟩
  | .array _ first rest => ⟨rfl, rfl, _, _, rfl, encodes_toNode first, slotsEncode_items rest⟩

/-- A slot is encoded by its own item. -/
theorem slotEncodes_item : (slot : Option Expression) → SlotEncodes slot (slotItem slot)
  | none => rfl
  | some expression => ⟨_, rfl, encodes_toNode expression⟩

/-- Slots are encoded by their own items. -/
theorem slotsEncode_items :
    (slots : List (Option Expression)) → SlotsEncode slots (slotItems slots)
  | [] => rfl
  | slot :: slots => ⟨_, _, rfl, slotEncodes_item slot, slotsEncode_items slots⟩

/-- Arguments are encoded by their own items. -/
theorem argumentsEncode_items :
    (arguments : List Expression) → ArgumentsEncode arguments (argumentItems arguments)
  | [] => rfl
  | argument :: arguments =>
    ⟨_, _, rfl, encodes_toNode argument, argumentsEncode_items arguments⟩

end

end Nodes

section Texts

mutual

/-- The text of an expression. -/
def text : Expression → String
  | .identifier name => name.1
  | .number digits => digits.1
  | .binary left operator right => Text.parens (Text.spaced [left.text, operator.1, right.text])
  | .member object name => object.text ++ "." ++ name.1
  | .index base position => base.text ++ Text.squares (slotText position)
  | .call callee arguments => callee.text ++ Text.parens (Text.commas (argumentTexts arguments))
  | .group inner => Text.parens inner.text
  | .tuple first second rest =>
    Text.parens (Text.commas (slotText first :: slotText second :: slotTexts rest))
  | .array missing first rest =>
    Text.squares (Text.commas (List.replicate missing "" ++ first.text :: slotTexts rest))

/-- The text of a component; a missing one has none. -/
def slotText : Option Expression → String
  | none => ""
  | some expression => expression.text

/-- The texts of components. -/
def slotTexts : List (Option Expression) → List String
  | [] => []
  | slot :: slots => slotText slot :: slotTexts slots

/-- The texts of arguments. -/
def argumentTexts : List Expression → List String
  | [] => []
  | argument :: arguments => argument.text :: argumentTexts arguments

end

/-- A call without names is written without them. -/
theorem texts_names_rendered {node : Node}
    (unnamed : node.attribute? "names" = none ∨ node.attribute? "names" = some (.arr [])) :
    node.rendered.texts "names" = [] := by
  rw [Attributes.texts, Attributes.items, Node.value?_rendered]
  rcases unnamed with missing | empty
  · rw [missing]
    rfl
  · rw [empty]
    rfl

mutual

/-- The nodes that stand for an expression have its text. -/
theorem unparse_of_encodes :
    (expression : Expression) → {node : Node} → expression.Encodes node →
      node.unparse = expression.text
  | .identifier name, node, ⟨tagged, named⟩ => by
    rw [Node.unparse_of_tag? tagged, text, ← named, ← Node.text_rendered]
    rfl
  | .number digits, node, ⟨tagged, kind, value, unit⟩ => by
    have valued : Render.literalValue node.rendered = digits.1 := by
      rw [Render.literalValue, Node.value?_rendered, value]
      rfl
    rw [Node.unparse_of_tag? tagged, text]
    change Render.literal node.rendered = _
    simp [Render.literal, valued, Node.text_rendered, kind, unit]
  | .binary left operator right, node, ⟨tagged, operatorText, ⟨_, leftChild, leftEncodes⟩,
      ⟨_, rightChild, rightEncodes⟩⟩ => by
    rw [Node.unparse_of_tag? tagged, text, ← unparse_of_encodes left leftEncodes,
      ← unparse_of_encodes right rightEncodes, ← Node.code_rendered_of_child? leftChild,
      ← Node.code_rendered_of_child? rightChild, ← operatorText, ← Node.text_rendered]
    rfl
  | .member object name, node, ⟨tagged, named, _, child, encodes⟩ => by
    rw [Node.unparse_of_tag? tagged, text, ← unparse_of_encodes object encodes,
      ← Node.code_rendered_of_child? child, ← named, ← Node.text_rendered]
    rfl
  | .index base position, node, ⟨tagged, ⟨_, child, baseEncodes⟩, positionEncodes⟩ => by
    rw [Node.unparse_of_tag? tagged, text, ← unparse_of_encodes base baseEncodes,
      ← unparse_of_slotEncodes position positionEncodes, ← Node.code_rendered_of_child? child,
      ← Node.code_rendered]
    rfl
  | .call callee arguments, node, ⟨tagged, unnamed, ⟨_, child, encodes⟩,
      ⟨_, listed, argumentsEncode⟩⟩ => by
    rw [Node.unparse_of_tag? tagged, text, ← unparse_of_encodes callee encodes,
      ← Node.code_rendered_of_child? child, ← childTexts_of_encode arguments argumentsEncode,
      ← Node.childCodes_rendered listed]
    change Render.functionCall node.rendered = _
    simp [Render.functionCall, texts_names_rendered unnamed]
  | .group inner, node, ⟨tagged, round, _, listed, encodes⟩ => by
    rw [Node.unparse_of_tag? tagged, text, ← unparse_of_encodes inner encodes]
    change Render.tupleExpression node.rendered = _
    simp [Render.tupleExpression, Attributes.isSet, Node.flag?_rendered, round,
      Node.slots_rendered listed, Text.commas, Node.unparse]
  | .tuple first second rest, node, ⟨tagged, round, _, _, _, listed, firstEncodes, secondEncodes,
      restEncode⟩ => by
    rw [Node.unparse_of_tag? tagged, text, ← unparse_of_slotEncodes first firstEncodes,
      ← unparse_of_slotEncodes second secondEncodes, ← unparse_of_slotsEncode rest restEncode]
    change Render.tupleExpression node.rendered = _
    simp [Render.tupleExpression, Attributes.isSet, Node.flag?_rendered, round,
      Node.slots_rendered listed]
  | .array missing first rest, node,
      ⟨tagged, square, _, _, listed, firstEncodes, restEncode⟩ => by
    rw [Node.unparse_of_tag? tagged, text, ← unparse_of_encodes first firstEncodes,
      ← unparse_of_slotsEncode rest restEncode]
    have unwritten : unparse .null = "" := rfl
    change Render.tupleExpression node.rendered = _
    simp [Render.tupleExpression, Attributes.isSet, Node.flag?_rendered, square,
      Node.slots_rendered listed, Node.unparse, unwritten]

/-- An item that encodes a slot is written like it. -/
theorem unparse_of_slotEncodes :
    (slot : Option Expression) → {item : Json} → SlotEncodes slot item →
      unparse item = slotText slot
  | none, _, rfl => rfl
  | some expression, _, ⟨_, rfl, encodes⟩ => unparse_of_encodes expression encodes

/-- Items that encode slots are written like them. -/
theorem unparse_of_slotsEncode :
    (slots : List (Option Expression)) → {items : List Json} → SlotsEncode slots items →
      items.map unparse = slotTexts slots
  | [], _, rfl => rfl
  | slot :: slots, _, ⟨_, _, rfl, encodes, rest⟩ => by
    rw [List.map_cons, unparse_of_slotEncodes slot encodes, unparse_of_slotsEncode slots rest,
      slotTexts]

/-- Items that encode arguments are written like them. -/
theorem childTexts_of_encode :
    (arguments : List Expression) → {items : List Json} → ArgumentsEncode arguments items →
      (items.filter Json.isObject).map unparse = argumentTexts arguments
  | [], _, rfl => rfl
  | argument :: arguments, _, ⟨node, rest, rfl, encodes, restEncode⟩ => by
    have isNode : node.toJson.isObject = true := rfl
    rw [List.filter_cons_of_pos isNode, List.map_cons, childTexts_of_encode arguments restEncode,
      argumentTexts, ← unparse_of_encodes argument encodes]
    rfl

end

end Texts

end Expression

end SourceTrace.Ast

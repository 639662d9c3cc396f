import SourceTrace.Ast.Render

/-!
# Attributes of rendered nodes

The rules of rendering read attributes that were rendered before. These lemmas say what they read in
terms of the node itself: a rendered attribute has the source text of the attribute, and texts,
truth values and kinds are those of the node.
-/

namespace SourceTrace.Ast

/-- The rendered attributes of a node. -/
def Node.rendered (node : Node) : Attributes :=
  ⟨renderedMembers node.members⟩

/-- The source text of a node is what the rules write for its attributes. -/
theorem Node.unparse_eq_codeOf (node : Node) : node.unparse = Render.codeOf node.rendered := rfl

/-- Items are rendered one by one. -/
theorem renderedItems_eq_map (items : List Json) : renderedItems items = items.map rendered := by
  induction items with
  | nil => rfl
  | cons item rest inductionHypothesis => rw [renderedItems, inductionHypothesis, List.map_cons]

/-- Members are rendered under their keys. -/
theorem lookup_renderedMembers (members : List (String × Json)) (key : String) :
    (renderedMembers members).lookup key = (members.lookup key).map rendered := by
  induction members with
  | nil => rfl
  | cons member rest inductionHypothesis =>
    obtain ⟨other, value⟩ := member
    rw [renderedMembers, List.lookup_cons, List.lookup_cons, inductionHypothesis]
    cases key == other <;> rfl

/-- The nodes among rendered values are the objects. -/
theorem isNode_rendered (value : Json) : (rendered value).isNode = value.isObject := by
  cases value <;> rfl

/-- Rendering keeps texts. -/
theorem text?_rendered (value : Json) : (rendered value).text? = value.text? := by
  cases value <;> rfl

namespace Node

variable {node inner : Node} {key : String} {items : List Json}

/-- The rules see the attributes of a node, rendered. -/
theorem value?_rendered (node : Node) (key : String) :
    node.rendered.value? key = (node.attribute? key).map Ast.rendered := by
  rw [Attributes.value?, attribute?, member?, rendered, lookup_renderedMembers]
  cases node.members.lookup key with
  | none => rfl
  | some value => cases value <;> rfl

/-- The source text under a key is that of the attribute, or of nothing. -/
theorem code_rendered (node : Node) (key : String) :
    node.rendered.code key = Ast.unparse ((node.attribute? key).getD .null) := by
  rw [Attributes.code, value?_rendered]
  cases node.attribute? key <;> rfl

/-- A child is an attribute. -/
theorem attribute?_of_child? (found : node.child? key = some inner) :
    node.attribute? key = some inner.toJson := by
  obtain ⟨value, present, is⟩ := Option.bind_eq_some_iff.mp found
  cases value with
  | obj members =>
    cases is
    exact present
  | _ => cases is

/-- The source text of the node under a key is the one that a rule reads. -/
theorem code_rendered_of_child? (found : node.child? key = some inner) :
    node.rendered.code key = inner.unparse := by
  rw [code_rendered, attribute?_of_child? found]
  rfl

/-- The rules see the texts of a node. -/
theorem text_rendered (node : Node) (key : String) : node.rendered.text key = node.text key := by
  rw [Attributes.text, value?_rendered, text]
  cases node.attribute? key with
  | none => rfl
  | some value => rw [Option.map_some, Option.bind_some, Option.bind_some, text?_rendered]

/-- The rules see the truth values of a node. -/
theorem flag?_rendered (node : Node) (key : String) : node.rendered.flag? key = node.flag? key := by
  rw [Attributes.flag?, value?_rendered, flag?]
  cases node.attribute? key with
  | none => rfl
  | some value => cases value <;> rfl

/-- The rules see the kind of a node. -/
theorem kind?_rendered (node : Node) : node.rendered.kind? = node.kind? := by
  rw [Attributes.kind?, kind?, tag?, member?, rendered, lookup_renderedMembers]
  cases node.members.lookup "nodeType" with
  | none => rfl
  | some value => rw [Option.map_some, Option.bind_some, Option.bind_some, text?_rendered]

/-- The rules see the items of a list attribute, rendered. -/
theorem items_rendered (found : node.attribute? key = some (.arr items)) :
    node.rendered.items key = items.map Ast.rendered := by
  rw [Attributes.items, value?_rendered, found, ← renderedItems_eq_map]
  rfl

/-- The slots of a list attribute have the source texts of its items. -/
theorem slots_rendered (found : node.attribute? key = some (.arr items)) :
    node.rendered.slots key = items.map Ast.unparse := by
  rw [Attributes.slots, items_rendered found, List.map_map]
  rfl

/-- The children in a list attribute have the source texts of the nodes among its items. -/
theorem childCodes_rendered (found : node.attribute? key = some (.arr items)) :
    node.rendered.childCodes key = (items.filter Json.isObject).map Ast.unparse := by
  rw [Attributes.childCodes, Attributes.children, items_rendered found, List.filter_map,
    List.map_map]
  congr 2
  funext value
  exact isNode_rendered value

/-- The source text of a child is the one under its key. -/
theorem childCode?_rendered (node : Node) (key : String) :
    node.rendered.childCode? key = (node.child? key).map Node.unparse := by
  rw [Attributes.childCode?, value?_rendered, child?]
  cases node.attribute? key with
  | none => rfl
  | some value => cases value <;> rfl

/-- A node is written by the rule of its kind. -/
theorem unparse_of_kind? {kind : Kind} (known : node.kind? = some kind) :
    node.unparse = Render.codeOfKind node.rendered kind := by
  rw [unparse_eq_codeOf, Render.codeOf, kind?_rendered, known]

/-- The text of a node of a known tag is the text that the rule for its kind writes. -/
theorem unparse_of_tag? {tag : String} (tagged : node.tag? = some tag) :
    node.unparse = Render.codeOfKind node.rendered (Kind.ofTag tag) := by
  apply unparse_of_kind?
  rw [kind?, tagged]
  rfl

end Node

end SourceTrace.Ast

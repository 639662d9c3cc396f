import SourceTrace.Ast.Kind
import SourceTrace.Json.Basic
import SourceTrace.SourceRange

/-!
# Syntax tree nodes

A node is a JSON object. An attribute that is `null` counts as missing.
-/

namespace SourceTrace.Ast

/-- A node of a syntax tree, with its attributes in document order. -/
structure Node where
  /-- Attributes, `null` ones included. -/
  members : List (String × Json)
  deriving Inhabited

/-- The node that a value is, if it is an object. -/
def Node.ofJson? : Json → Option Node
  | .obj members => some ⟨members⟩
  | _ => none

namespace Node

/-- A node as a JSON value. -/
def toJson (node : Node) : Json :=
  .obj node.members

/-- The member under a key, which may be `null`. -/
def member? (node : Node) (key : String) : Option Json :=
  node.members.lookup key

/-- The attribute under a key, which is not `null`. -/
def attribute? (node : Node) (key : String) : Option Json :=
  (node.member? key).filter fun value => !value.isNull

/-- The tag of a node. -/
def tag? (node : Node) : Option String :=
  (node.member? "nodeType").bind Json.text?

/-- The kind of a node. -/
def kind? (node : Node) : Option Kind :=
  node.tag?.map Kind.ofTag

/-- The number of a node. -/
def id? (node : Node) : Option Int64 :=
  (node.member? "id").bind Json.int64?

/-- The source range of a node, which may be malformed. -/
def source? (node : Node) : Option (Except LookupError SourceRange) :=
  ((node.member? "src").bind Json.text?).map SourceRange.parse

/-- The source range of a node that has a well formed one. -/
def range? (node : Node) : Option SourceRange :=
  match node.source? with
  | some (.ok range) => some range
  | _ => none

/-- The node under a key. -/
def child? (node : Node) (key : String) : Option Node :=
  (node.attribute? key).bind Node.ofJson?

/-- The nodes in the array under a key; items that are no nodes are left out. -/
def children (node : Node) (key : String) : List Node :=
  (((node.attribute? key).bind Json.items?).getD []).filterMap Node.ofJson?

/-- The text under a key, empty if there is none. -/
def text (node : Node) (key : String) : String :=
  ((node.attribute? key).bind Json.text?).getD ""

/-- The truth value under a key. -/
def flag? (node : Node) (key : String) : Option Bool :=
  (node.attribute? key).bind Json.bool?

end Node

end SourceTrace.Ast

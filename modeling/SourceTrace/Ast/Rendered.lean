import SourceTrace.Ast.Kind
import SourceTrace.Json.Basic
import SourceTrace.Text.Bracket

/-!
# Rendered values

A rendered value is a JSON value in which every node carries its source text. The text of a node is
put together from its attributes, which are rendered before it.
-/

namespace SourceTrace.Ast

/-- A JSON value with the source text of its nodes. -/
inductive Rendered where
  /-- The value `null`. -/
  | null
  /-- A truth value. -/
  | bool (value : Bool)
  /-- A number. -/
  | num (value : Json.Number)
  /-- A text. -/
  | str (text : String)
  /-- An array, with the text of its items. -/
  | list (items : List Rendered) (code : String)
  /-- A node with its attributes and its text. -/
  | node (members : List (String × Rendered)) (code : String)
  deriving Inhabited

namespace Rendered

/-- The source text of a value; only nodes and arrays have any. -/
def code : Rendered → String
  | list _ code => code
  | node _ code => code
  | _ => ""

/-- Whether a value is `null`. -/
def isNull : Rendered → Bool
  | null => true
  | _ => false

/-- Whether a value is a node. -/
def isNode : Rendered → Bool
  | node _ _ => true
  | _ => false

/-- The text of a string. -/
def text? : Rendered → Option String
  | str text => some text
  | _ => none

/-- The member of a node under a key, which may be `null`. -/
def member? (value : Rendered) (key : String) : Option Rendered :=
  match value with
  | node members _ => members.lookup key
  | _ => none

end Rendered

/-- The rendered attributes of a node. -/
structure Attributes where
  /-- Attributes, `null` ones included. -/
  members : List (String × Rendered)

namespace Attributes

/-- The attribute under a key, which is not `null`. -/
def value? (attributes : Attributes) (key : String) : Option Rendered :=
  (attributes.members.lookup key).filter fun value => !value.isNull

/-- The source text of the attribute under a key, empty if there is none. -/
def code (attributes : Attributes) (key : String) : String :=
  ((attributes.value? key).map Rendered.code).getD ""

/-- The source text of the attribute under a key if it is a node. -/
def childCode? (attributes : Attributes) (key : String) : Option String :=
  ((attributes.value? key).filter Rendered.isNode).map Rendered.code

/-- The text under a key, empty if there is none. -/
def text (attributes : Attributes) (key : String) : String :=
  ((attributes.value? key).bind Rendered.text?).getD ""

/-- The truth value under a key. -/
def flag? (attributes : Attributes) (key : String) : Option Bool :=
  match attributes.value? key with
  | some (.bool value) => some value
  | _ => none

/-- Whether the value under a key is `true`. -/
def isSet (attributes : Attributes) (key : String) : Bool :=
  attributes.flag? key == some true

/-- The items of the array under a key; no items if there is none. -/
def items (attributes : Attributes) (key : String) : List Rendered :=
  match attributes.value? key with
  | some (.list items _) => items
  | _ => []

/-- The nodes in the array under a key. -/
def children (attributes : Attributes) (key : String) : List Rendered :=
  (attributes.items key).filter Rendered.isNode

/-- The source texts of the nodes in the array under a key. -/
def childCodes (attributes : Attributes) (key : String) : List String :=
  (attributes.children key).map Rendered.code

/-- The source texts of all items of the array under a key; an item that is no node is an empty
slot. -/
def slots (attributes : Attributes) (key : String) : List String :=
  (attributes.items key).map Rendered.code

/-- The strings in the array under a key. -/
def texts (attributes : Attributes) (key : String) : List String :=
  (attributes.items key).filterMap Rendered.text?

/-- The kind of a node. -/
def kind? (attributes : Attributes) : Option Kind :=
  ((attributes.members.lookup "nodeType").bind Rendered.text?).map Kind.ofTag

end Attributes

/-- The attributes of a node; other values have none. -/
def Rendered.attributes : Rendered → Attributes
  | .node members _ => ⟨members⟩
  | _ => ⟨[]⟩

end SourceTrace.Ast

import SourceTrace.Text.Number

/-!
# JSON values

The members of an object keep the order of the document. Numbers are exact integers where they fit
into 64 bits, signed or unsigned, and doubles otherwise.
-/

namespace SourceTrace

/-- A JSON number. -/
inductive Json.Number where
  /-- An integer from -2^63 to 2^64 - 1. -/
  | int (value : Int)
  /-- Any other number, as the double it was read as. -/
  | float (value : Float)

/-- A JSON value. -/
inductive Json where
  /-- The value `null`. -/
  | null
  /-- A truth value. -/
  | bool (value : Bool)
  /-- A number. -/
  | num (value : Json.Number)
  /-- A text. -/
  | str (text : String)
  /-- An array. -/
  | arr (items : List Json)
  /-- An object, its members in document order. -/
  | obj (members : List (String × Json))
  deriving Inhabited

namespace Json

/-- The members of an object; other values have none. -/
def members : Json → List (String × Json)
  | obj members => members
  | _ => []

/-- The items of an array. -/
def items? : Json → Option (List Json)
  | arr items => some items
  | _ => none

/-- The text of a string. -/
def text? : Json → Option String
  | str text => some text
  | _ => none

/-- The value of a truth value. -/
def bool? : Json → Option Bool
  | bool value => some value
  | _ => none

/-- The value of an integer that fits into a signed 64 bit word. -/
def int64? : Json → Option Int64
  | num (.int value) =>
    if -Text.halfWord ≤ value ∧ value < Text.halfWord then some (Int64.ofInt value) else none
  | _ => none

/-- Whether a value is `null`. -/
def isNull : Json → Bool
  | null => true
  | _ => false

/-- Whether a value is an object. -/
def isObject : Json → Bool
  | obj _ => true
  | _ => false

/-- The member of an object under a key, which may be `null`. -/
def get? (value : Json) (key : String) : Option Json :=
  value.members.lookup key

/-- Gives a key a new value at its old position, or adds it at the end. -/
def putMember (key : String) (value : Json) : List (String × Json) → List (String × Json)
  | [] => [(key, value)]
  | (other, old) :: rest =>
    if other = key then (key, value) :: rest else (other, old) :: putMember key value rest

/-- Members of which no key is repeated: a repeated key keeps its first position and its last
value. -/
def mergeMembers (members : List (String × Json)) : List (String × Json) :=
  members.foldl (fun merged member => putMember member.1 member.2 merged) []

end Json

end SourceTrace

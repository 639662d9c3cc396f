import SourceTrace.Json.Basic

/-!
# JSON documents as written

A draft is a document whose grammar was checked and nothing else: repeated members are kept, nesting
is not limited, and a number beyond the range of a double or a text with half a surrogate pair is
present without a value. Parts of a document that nobody looks at are only ever read this far.
-/

namespace SourceTrace.Json

/-- A JSON document as written. -/
inductive Draft where
  /-- The value `null`. -/
  | null
  /-- A truth value. -/
  | bool (value : Bool)
  /-- A number, with its value if it is in range. -/
  | num (value : Option Number)
  /-- A text, with its value if it is well formed. -/
  | str (text : Option String)
  /-- An array. -/
  | arr (items : List Draft)
  /-- An object with all members as written. -/
  | obj (members : List (Option String × Draft))
  deriving Inhabited

/-- How many arrays and objects may stand inside one another. -/
def maxDepth : Nat := 127

mutual

/-- The value of a draft in which at most `depth` arrays and objects are nested. -/
def Draft.valueWithin (depth : Nat) : Draft → Option Json
  | .null => some .null
  | .bool value => some (.bool value)
  | .num value => value.map .num
  | .str text => text.map .str
  | .arr items =>
    match depth with
    | 0 => none
    | depth + 1 => (Draft.valuesWithin depth items).map .arr
  | .obj members =>
    match depth with
    | 0 => none
    | depth + 1 =>
      (Draft.membersWithin depth members).map fun members => .obj (mergeMembers members)

/-- The values of the items of an array. -/
def Draft.valuesWithin (depth : Nat) : List Draft → Option (List Json)
  | [] => some []
  | item :: rest =>
    match Draft.valueWithin depth item, Draft.valuesWithin depth rest with
    | some value, some values => some (value :: values)
    | _, _ => none

/-- The values of the members of an object. -/
def Draft.membersWithin (depth : Nat) :
    List (Option String × Draft) → Option (List (String × Json))
  | [] => some []
  | (key, item) :: rest =>
    match key, Draft.valueWithin depth item, Draft.membersWithin depth rest with
    | some key, some value, some values => some ((key, value) :: values)
    | _, _, _ => none

end

/-- The value of a draft, if all of it has one and its nesting is within the limit. -/
def Draft.value? (draft : Draft) : Option Json :=
  draft.valueWithin maxDepth

mutual

/-- A value as a draft. -/
def toDraft : Json → Draft
  | .null => .null
  | .bool value => .bool value
  | .num value => .num (some value)
  | .str text => .str (some text)
  | .arr items => .arr (itemsToDraft items)
  | .obj members => .obj (membersToDraft members)

/-- The items of an array as drafts. -/
def itemsToDraft : List Json → List Draft
  | [] => []
  | item :: rest => toDraft item :: itemsToDraft rest

/-- The members of an object as drafts. -/
def membersToDraft : List (String × Json) → List (Option String × Draft)
  | [] => []
  | (key, value) :: rest => (some key, toDraft value) :: membersToDraft rest

end

end SourceTrace.Json

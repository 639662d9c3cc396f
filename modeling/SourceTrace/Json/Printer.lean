import SourceTrace.Json.Number

/-!
# Writing JSON

Compact documents: no space between tokens, and only quotes, backslashes and control characters
escaped. A document written this way has no line break.
-/

namespace SourceTrace.Json

/-- One character inside a text. -/
def escapeChar (c : Char) : List Char :=
  if c = '"' then ['\\', '"']
  else if c = '\\' then ['\\', '\\']
  else if c = '\x08' then ['\\', 'b']
  else if c = '\x0c' then ['\\', 'f']
  else if c = '\n' then ['\\', 'n']
  else if c = '\r' then ['\\', 'r']
  else if c = '\t' then ['\\', 't']
  else if c.toNat < 0x20 then '\\' :: 'u' :: Text.fixedDigits 16 4 c.toNat
  else [c]

/-- A text between quotes. -/
def renderText (text : String) : String :=
  "\"" ++ String.ofList (text.toList.flatMap escapeChar) ++ "\""

mutual

/-- The compact document of a value. -/
def render : Json → String
  | .null => "null"
  | .bool true => "true"
  | .bool false => "false"
  | .num value => value.render
  | .str text => renderText text
  | .arr items => "[" ++ ",".intercalate (renderItems items) ++ "]"
  | .obj members => "\x7b" ++ ",".intercalate (renderMembers members) ++ "\x7d"

/-- The documents of the items of an array. -/
def renderItems : List Json → List String
  | [] => []
  | item :: rest => render item :: renderItems rest

/-- The members of an object, each with its key. -/
def renderMembers : List (String × Json) → List String
  | [] => []
  | (key, value) :: rest => (renderText key ++ ":" ++ render value) :: renderMembers rest

end

end SourceTrace.Json

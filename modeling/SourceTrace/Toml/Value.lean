import SourceTrace.Decimal.Layout
import SourceTrace.Text.Bracket
import SourceTrace.Text.Quoted

/-!
# TOML values

The values of a TOML document, and their description in messages: the name of the type with the
value in brackets, tables sorted by key.
-/

namespace SourceTrace.Toml

/-- A calendar date. -/
structure Date where
  /-- Year, from 0 to 9999. -/
  year : Nat
  /-- Month, from 1. -/
  month : Nat
  /-- Day of the month, from 1. -/
  day : Nat
  deriving DecidableEq, Repr

/-- A time of day. -/
structure Time where
  /-- Hour. -/
  hour : Nat
  /-- Minute. -/
  minute : Nat
  /-- Second; 60 is a leap second. -/
  second : Nat
  /-- Nanosecond. -/
  nanosecond : Nat
  deriving DecidableEq, Repr

/-- The distance of a local time from universal time. -/
inductive Offset where
  /-- Universal time itself. -/
  | zulu
  /-- A number of minutes. -/
  | minutes (count : Int)
  deriving DecidableEq, Repr

/-- A date, a time, or both, with or without an offset. -/
structure Moment where
  /-- The date. -/
  date : Option Date
  /-- The time. -/
  time : Option Time
  /-- The offset. -/
  offset : Option Offset
  deriving DecidableEq, Repr

/-- A TOML value. -/
inductive Value where
  /-- A text. -/
  | string (text : String)
  /-- An integer of 64 bits. -/
  | integer (value : Int)
  /-- A floating point number. -/
  | float (value : Float)
  /-- A truth value. -/
  | boolean (value : Bool)
  /-- A date or time. -/
  | moment (value : Moment)
  /-- An array. -/
  | array (items : List Value)
  /-- A table. -/
  | table (entries : List (String × Value))
  deriving Inhabited

/-- Floating point numbers are positional from 0.0001 up to 10^16; a plus sign is never written. -/
def layout : Decimal.Layout := ⟨-4, 15, "", .up⟩

/-- A record with named fields. -/
def describeRecord (name : String) (fields : List (String × String)) : String :=
  name ++ " " ++ Text.braces
    (" " ++ Text.commas (fields.map fun (field, value) => field ++ ": " ++ value) ++ " ")

/-- A value that may be missing. -/
def describeOption (value : Option String) : String :=
  match value with
  | some text => "Some" ++ Text.parens text
  | none => "None"

/-- The description of a date. -/
def Date.describe (date : Date) : String :=
  describeRecord "Date" [("year", Text.decimal date.year), ("month", Text.decimal date.month),
    ("day", Text.decimal date.day)]

/-- The description of a time. -/
def Time.describe (time : Time) : String :=
  describeRecord "Time" [("hour", Text.decimal time.hour), ("minute", Text.decimal time.minute),
    ("second", Text.decimal time.second), ("nanosecond", Text.decimal time.nanosecond)]

/-- The description of an offset. -/
def Offset.describe : Offset → String
  | .zulu => "Z"
  | .minutes count => describeRecord "Custom" [("minutes", Text.signedDecimal count)]

/-- The description of a date or time. -/
def Moment.describe (moment : Moment) : String :=
  describeRecord "Datetime" [("date", describeOption (moment.date.map Date.describe)),
    ("time", describeOption (moment.time.map Time.describe)),
    ("offset", describeOption (moment.offset.map Offset.describe))]

mutual

/-- The description of a value. -/
def Value.describe : Value → String
  | .string text => "String" ++ Text.parens (Text.quote text)
  | .integer value => "Integer" ++ Text.parens (Text.signedDecimal value)
  | .float value => "Float" ++ Text.parens (layout.render value)
  | .boolean value => "Boolean" ++ Text.parens (if value then "true" else "false")
  | .moment value => "Datetime" ++ Text.parens value.describe
  | .array items => "Array" ++ Text.parens (Text.squares (Text.commas (Value.describeItems items)))
  | .table entries =>
    let sorted := (Value.describeEntries entries).mergeSort fun first second =>
      !(second.1 < first.1)
    "Table" ++ Text.parens (Text.braces (Text.commas
      (sorted.map fun (key, value) => Text.quote key ++ ": " ++ value)))

/-- The descriptions of the items of an array. -/
def Value.describeItems : List Value → List String
  | [] => []
  | item :: rest => Value.describe item :: Value.describeItems rest

/-- The descriptions of the values of a table, with their keys. -/
def Value.describeEntries : List (String × Value) → List (String × String)
  | [] => []
  | (key, value) :: rest => (key, Value.describe value) :: Value.describeEntries rest

end

end SourceTrace.Toml

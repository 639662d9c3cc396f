import SourceTrace.Toml.Value

/-!
# Building TOML tables

Tables grow by headers and by dotted keys. A table that was only mentioned on the way to another one
is implicit and may still be opened by a header of its own, once. A table made by dotted keys may be
extended by dotted keys only, and a value that was written in place is never extended.
-/

namespace SourceTrace.Toml

/-- What a key of a growing table leads to. -/
inductive Item where
  /-- A value written in place. -/
  | value (value : Value)
  /-- A table, with whether it is implicit and whether dotted keys made it. -/
  | table (implicit dotted : Bool) (entries : List (String × Item))
  /-- An array of tables made by headers. -/
  | tables (elements : List (List (String × Item)))
  deriving Inhabited

/-- The entries of a growing table. -/
abbrev Entries := List (String × Item)

/-- Gives a key a new item at its old position, or adds it at the end. -/
def Entries.put (key : String) (item : Item) : Entries → Entries
  | [] => [(key, item)]
  | (other, old) :: rest =>
    if other = key then (key, item) :: rest else (other, old) :: Entries.put key item rest

/-- Changes the table at the end of a path. Tables on the way that do not exist are made; they are
implicit. The change is told whether dotted keys made the table. With `dotted`, the path is a dotted
key, which may not go through a table that was opened by a header. -/
def Entries.alter (dotted : Bool) (change : Bool → Entries → Option Entries)
    (madeByDots : Bool) : List String → Entries → Option Entries
  | [], entries => change madeByDots entries
  | key :: rest, entries =>
    match entries.lookup key with
    | none =>
      (Entries.alter dotted change dotted rest []).map fun inner =>
        Entries.put key (.table true dotted inner) entries
    | some (.value _) => none
    | some (.table implicit made inner) =>
      if dotted && !implicit then none
      else (Entries.alter dotted change made rest inner).map fun inner =>
        Entries.put key (.table implicit made inner) entries
    | some (.tables elements) =>
      match elements.getLast? with
      | none => none
      | some last =>
        (Entries.alter dotted change false rest last).map fun last =>
          Entries.put key (.tables (elements.dropLast ++ [last])) entries

/-- Splits a path into the way and the last key. -/
def splitPath (path : List String) : Option (List String × String) :=
  path.getLast?.map fun last => (path.dropLast, last)

/-- Opens the table of a header. Only an implicit table that no dotted key made may exist
already. -/
def Entries.openTable (path : List String) (root : Entries) : Option Entries :=
  (splitPath path).bind fun (way, key) =>
    Entries.alter false (fun _ entries =>
      match entries.lookup key with
      | none => some (Entries.put key (.table false false []) entries)
      | some (.table true false inner) =>
        some (Entries.put key (.table false false inner) entries)
      | some _ => none) false way root

/-- Adds a table to the array of a header. -/
def Entries.openElement (path : List String) (root : Entries) : Option Entries :=
  (splitPath path).bind fun (way, key) =>
    Entries.alter false (fun _ entries =>
      match entries.lookup key with
      | none => some (Entries.put key (.tables [[]]) entries)
      | some (.tables elements) => some (Entries.put key (.tables (elements ++ [[]])) entries)
      | some _ => none) false way root

/-- Gives a dotted key a value. The key must be new, and the table it ends in must have been made by
dotted keys exactly if the key is a dotted one. -/
def Entries.assign (path : List String) (value : Value) (entries : Entries) : Option Entries :=
  (splitPath path).bind fun (way, key) =>
    Entries.alter true (fun madeByDots entries =>
      if madeByDots == way.isEmpty then none
      else match entries.lookup key with
        | none => some (Entries.put key (.value value) entries)
        | some _ => none) false way entries

/-- Gives a dotted key a value in the table of a header. -/
def Entries.assignIn (header path : List String) (value : Value) (root : Entries) :
    Option Entries :=
  Entries.alter false (fun _ entries => Entries.assign path value entries) false header root

mutual

/-- The value of an item. -/
def Item.toValue : Item → Value
  | .value given => given
  | .table _ _ entries => .table (Item.entriesToValues entries)
  | .tables elements => .array (Item.elementsToValues elements)

/-- The values of the entries of a table. -/
def Item.entriesToValues : List (String × Item) → List (String × Value)
  | [] => []
  | (key, item) :: rest => (key, Item.toValue item) :: Item.entriesToValues rest

/-- The values of the tables of an array. -/
def Item.elementsToValues : List (List (String × Item)) → List Value
  | [] => []
  | entries :: rest => .table (Item.entriesToValues entries) :: Item.elementsToValues rest

end

end SourceTrace.Toml

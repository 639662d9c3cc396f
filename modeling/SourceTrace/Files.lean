import SourceTrace.Path
import SourceTrace.Text.Utf8

/-!
# Files

A run sees the file system through one look at each path. A directory tree kept in memory answers
such looks as well.
-/

namespace SourceTrace

/-- What is found at a path. -/
inductive FileEntry where
  /-- Nothing. -/
  | missing
  /-- Nothing, because the path goes through a file. -/
  | notDirectory
  /-- A directory. -/
  | directory
  /-- A file with its bytes. -/
  | file (data : List UInt8)
  deriving DecidableEq, Repr

/-- What is found at each path. -/
abbrev Files := String → FileEntry

/-- Whether there is a file or a directory. -/
def FileEntry.exists : FileEntry → Bool
  | .directory | .file _ => true
  | _ => false

/-- Whether there is a file. -/
def FileEntry.isFile : FileEntry → Bool
  | .file _ => true
  | _ => false

/-- Why a file cannot be read as text. -/
inductive ReadFault where
  /-- Nothing is there. -/
  | missing
  /-- The path goes through a file. -/
  | notDirectory
  /-- A directory is there. -/
  | directory
  /-- The bytes are no UTF-8. -/
  | encoding
  deriving DecidableEq, Repr

/-- The wording of a fault. -/
def ReadFault.message : ReadFault → String
  | .missing => "No such file or directory (os error 2)"
  | .notDirectory => "Not a directory (os error 20)"
  | .directory => "Is a directory (os error 21)"
  | .encoding => "stream did not contain valid UTF-8"

/-- The text of a file. -/
def FileEntry.readText : FileEntry → Except ReadFault String
  | .missing => .error .missing
  | .notDirectory => .error .notDirectory
  | .directory => .error .directory
  | .file data => match Text.ofBytes? data with
    | some text => .ok text
    | none => .error .encoding

/-- A directory tree in memory: the files below the working directory, by their plain paths. -/
structure FileTree where
  /-- Components of the path of each file, with its bytes. -/
  files : List (List String × List UInt8)
  deriving DecidableEq, Repr

namespace FileTree

/-- The tree of files with the given paths. -/
def ofList (files : List (String × List UInt8)) : FileTree :=
  ⟨files.map fun (path, data) => ((Path.pieces path).filter Path.isMeaningful, data)⟩

/-- What is found at a place given by plain components. -/
def entryAt (tree : FileTree) (place : List String) : FileEntry :=
  match tree.files.lookup place with
  | some data => .file data
  | none =>
    if place.isEmpty || tree.files.any (fun file => place.isPrefixOf file.1) then .directory
    else .missing

/-- What is found by a walk outside of the tree. Nothing is known there but directories that are
reached without a name. -/
def walkOutside : List Path.Component → FileEntry
  | [] => .directory
  | .named _ :: _ => .missing
  | _ :: rest => walkOutside rest

/-- Walks from a place in the tree, given by its components in reverse. -/
def walk (tree : FileTree) (place : List String) : List Path.Component → FileEntry
  | [] => tree.entryAt place.reverse
  | component :: rest =>
    match tree.entryAt place.reverse with
    | .directory =>
      match component with
      | .root => walkOutside rest
      | .current => tree.walk place rest
      | .parent => if place.isEmpty then walkOutside rest else tree.walk place.tail rest
      | .named name => tree.walk (name :: place) rest
    | .file _ => .notDirectory
    | entry => entry

/-- What is found at a path. A path that ends in a slash or a dot means a directory. -/
def entry (tree : FileTree) (path : String) : FileEntry :=
  let entry := if path.isEmpty then .missing else tree.walk [] (Path.components path)
  let wantsDirectory := (Path.pieces path).getLast?.any fun piece => !Path.isMeaningful piece
  if wantsDirectory && entry.isFile then .notDirectory else entry

end FileTree

end SourceTrace

/-!
# Paths

Paths are texts. A slash divides their components; empty components and single dots have no meaning,
except that a relative path may start with a dot.
-/

namespace SourceTrace.Path

/-- A component of a path. -/
inductive Component where
  /-- The root, at the start of an absolute path. -/
  | root
  /-- The current directory, at the start of a relative path. -/
  | current
  /-- The parent directory. -/
  | parent
  /-- A named file or directory. -/
  | named (name : String)
  deriving DecidableEq, Repr

/-- Whether a path starts at the root. -/
def isAbsolute (path : String) : Bool :=
  path.toList.head? = some '/'

/-- The texts between the slashes of a path. -/
def pieces (path : String) : List String :=
  (path.toList.splitOn '/').map String.ofList

/-- Whether a piece has a meaning of its own. -/
def isMeaningful (piece : String) : Bool :=
  !(piece.isEmpty || piece = ".")

/-- The component that a piece stands for, if it has a meaning. -/
def component? (piece : String) : Option Component :=
  if !isMeaningful piece then none
  else if piece = ".." then some .parent
  else some (.named piece)

/-- The components of a path. -/
def components (path : String) : List Component :=
  let start :=
    if isAbsolute path then [Component.root]
    else if (pieces path).head? = some "." then [Component.current]
    else []
  start ++ (pieces path).filterMap component?

/-- A path below a directory; an absolute path stays as it is. -/
def join (directory path : String) : String :=
  if isAbsolute path then path
  else if directory.isEmpty || directory.toList.getLast? = some '/' then directory ++ path
  else directory ++ "/" ++ path

/-- The name at the end of a path. -/
def fileName? (path : String) : Option String :=
  match (components path).getLast? with
  | some (.named name) => some name
  | _ => none

/-- A file name without its last extension. A dot at the start of a name begins no extension. -/
def dropExtension (name : String) : String :=
  match name.toList.reverse.span (· != '.') with
  | (_, []) => name
  | (_, _ :: before) => if before.isEmpty then name else String.ofList before.reverse

/-- The name at the end of a path without its extension. -/
def fileStem? (path : String) : Option String :=
  (fileName? path).map dropExtension

end SourceTrace.Path

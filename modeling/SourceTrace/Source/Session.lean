import SourceTrace.Source.Set

/-!
# Sessions with a source set

A session answers requests about one source set in turn. The line index of a content is built when a
request first needs it and is kept for the requests to come. It belongs to the file: a number that
is given another file has no index until one is needed again.
-/

namespace SourceTrace.SourceSet

/-- A request to a source set. -/
inductive Request where
  /-- Gives a number a file. -/
  | insert (id : Int64) (file : SourceFile)
  /-- Asks for the file of a number. -/
  | get (id : Int64)
  /-- Asks for a range of the file of a number. -/
  | snippet (id : Int64) (offset length : Nat)
  /-- Asks for all numbers with their paths. -/
  | list
  deriving DecidableEq, Repr

/-- The answer to a request. -/
inductive Answer where
  /-- The file that the inserted one replaces. -/
  | replaced (file : Option SourceFile)
  /-- The file of the number, with the number of its lines if it has a content. -/
  | found (file : Option (SourceFile × Option Nat))
  /-- The range of the file. -/
  | snippet (snippet : Option Snippet)
  /-- All numbers with their paths. -/
  | listing (files : List (Int64 × String))
  deriving DecidableEq, Repr

/-- A source set with the line indexes that were built so far. -/
structure Session where
  /-- The files. -/
  set : SourceSet := SourceSet.empty
  /-- Line indexes by the number of their file. -/
  indexes : List (Int64 × LineIndex) := []

namespace Session

/-- The line index of the file of a number, which is built if it is not there yet. -/
def lineIndex? (session : Session) (id : Int64) : Session × Option LineIndex :=
  match session.set.content? id with
  | none => (session, none)
  | some content =>
    match session.indexes.lookup id with
    | some index => (session, some index)
    | none =>
      let index := LineIndex.ofText content
      ({ session with indexes := (id, index) :: session.indexes }, some index)

/-- Gives a number a file. The index of the file it had goes with that file. -/
def insert (session : Session) (id : Int64) (file : SourceFile) : Session where
  set := session.set.insert id file
  indexes := session.indexes.filter fun entry => entry.1 ≠ id

/-- The range of the file of a number. A range that cannot be cut needs no line. -/
def snippet? (session : Session) (id : Int64) (offset length : Nat) : Session × Option Snippet :=
  match (session.set.content? id).bind fun content =>
      Text.slice? (Text.bytes content) offset length with
  | none => (session, none)
  | some part =>
    let (session, index) := session.lineIndex? id
    (session, index.map fun index => ⟨Text.ofBytesLossy part, index.lineOf offset⟩)

/-- The session after a request, and the answer. -/
def step (session : Session) : Request → Session × Answer
  | .insert id file => (session.insert id file, .replaced (session.set.get? id))
  | .get id =>
    let (next, index) := session.lineIndex? id
    (next, .found ((session.set.get? id).map fun file => (file, index.map LineIndex.count)))
  | .snippet id offset length =>
    let (next, snippet) := session.snippet? id offset length
    (next, .snippet snippet)
  | .list => (session, .listing (session.set.files.map fun entry => (entry.1, entry.2.path)))

/-- The session after requests that are answered in turn, from an empty set. -/
def after (requests : List Request) : Session :=
  requests.foldl (fun session request => (session.step request).1) {}

end Session

end SourceTrace.SourceSet

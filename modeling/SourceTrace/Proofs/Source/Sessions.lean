import Mathlib.Data.Finset.Card
import SourceTrace.Proofs.Source.Lines
import SourceTrace.Proofs.Source.Sets
import SourceTrace.Source.Session

/-!
# Answers of a session

`Session.answers_last_write` shows that a session answers every request as the map would in which
the last insertion under each number counts. The files depend on the insertions alone. What could go
wrong is the line index: it is kept from an earlier request, when the number may have had another
content. `Session.Coherent` says that every index that is kept is that of the present content; no
request breaks this, because an insertion drops the index of its number.
-/

namespace SourceTrace.SourceSet

/-- The insertions among requests, in their order. -/
def insertions (requests : List Request) : List Numbered :=
  requests.filterMap fun
    | .insert id file => some (id, file)
    | _ => none

/-- The file of the latest insertion under a number. -/
def latest? (requests : List Request) (id : Int64) : Option SourceFile :=
  (insertions requests).reverse.lookup id

namespace Session

variable {session : Session}

@[simp] theorem set_lineIndex? (id : Int64) : (session.lineIndex? id).1.set = session.set := by
  simp only [lineIndex?]
  split
  · rfl
  · split <;> rfl

@[simp] theorem set_snippet? (id : Int64) (offset length : Nat) :
    (session.snippet? id offset length).1.set = session.set := by
  simp only [snippet?]
  split
  · rfl
  · exact set_lineIndex? id

/-- A request changes the files only if it is an insertion. -/
theorem set_step (request : Request) :
    (session.step request).1.set =
      (insertions [request]).foldl (fun set file => set.insert file.1 file.2) session.set := by
  cases request with
  | insert id file => rfl
  | get id => exact set_lineIndex? id
  | snippet id offset length => exact set_snippet? id offset length
  | list => rfl

/-- The files after requests are those of the insertions among them. -/
theorem set_after (requests : List Request) :
    (after requests).set = SourceSet.ofList (insertions requests) := by
  suffices taken : ∀ session : Session,
      (requests.foldl (fun session request => (session.step request).1) session).set =
        (insertions requests).foldl (fun set file => set.insert file.1 file.2) session.set from
    taken {}
  -- The files change with every request, so the statement is about requests to any session.
  induction requests with
  | nil => exact fun session => rfl
  | cons request rest inductionHypothesis =>
    intro session
    have split : insertions (request :: rest) = insertions [request] ++ insertions rest := by
      rw [insertions, insertions, insertions, ← List.filterMap_append, List.singleton_append]
    rw [List.foldl_cons, inductionHypothesis, set_step, split, List.foldl_append]

/-- After some requests a file is the one inserted last under its number. -/
theorem get?_after (requests : List Request) (id : Int64) :
    (after requests).set.get? id = latest? requests id := by
  rw [set_after, get?_ofList, latest?]

/-- After some requests a content is that of the file inserted last under its number. -/
theorem content?_after (requests : List Request) (id : Int64) :
    (after requests).set.content? id = (latest? requests id).bind SourceFile.content := by
  rw [content?, get?_after]

/-- Every index that is kept is the one of the present content. -/
def Coherent (session : Session) : Prop :=
  ∀ id index, session.indexes.lookup id = some index →
    (session.set.content? id).map LineIndex.ofText = some index

/-- A coherent session gives the index of the present content, whether it was kept or not. -/
theorem Coherent.lineIndex?_eq (coherent : session.Coherent) (id : Int64) :
    (session.lineIndex? id).2 = (session.set.content? id).map LineIndex.ofText := by
  simp only [lineIndex?]
  split
  · rename_i missing
    rw [missing]
    rfl
  · rename_i content present
    split
    · rename_i index kept
      exact (coherent id index kept).symm
    · rw [present]
      rfl

/-- Asking for an index keeps a session coherent: what is built is built from the present
content. -/
theorem Coherent.lineIndex? (coherent : session.Coherent) (id : Int64) :
    (session.lineIndex? id).1.Coherent := by
  simp only [Session.lineIndex?]
  split
  · exact coherent
  · rename_i content present
    split
    · exact coherent
    · intro other index found
      simp only [lookup_numbered_cons] at found
      split at found
      · rename_i same
        cases found
        rw [same, present]
        rfl
      · exact coherent other index found

/-- An insertion keeps a session coherent, since it drops the only index whose content it
changes. -/
theorem Coherent.insert (coherent : session.Coherent) (id : Int64) (file : SourceFile) :
    (session.insert id file).Coherent := by
  intro other index found
  simp only [Session.insert, lookup_filter_ne] at found
  split at found
  · cases found
  · rename_i differs
    have unchanged : (session.set.insert id file).content? other = session.set.content? other := by
      rw [content?, get?_insert, if_neg differs, content?]
    rw [Session.insert, unchanged]
    exact coherent other index found

/-- A request keeps indices in step with contents. -/
theorem Coherent.step (coherent : session.Coherent) (request : Request) :
    (session.step request).1.Coherent := by
  cases request with
  | insert id file => exact coherent.insert id file
  | get id => exact coherent.lineIndex? id
  | snippet id offset length =>
    simp only [Session.step, snippet?]
    split
    · exact coherent
    · exact coherent.lineIndex? id
  | list => exact coherent

/-- Every session is coherent after any requests. -/
theorem coherent_after (requests : List Request) : (after requests).Coherent := by
  suffices kept : ∀ session : Session, session.Coherent →
      (requests.foldl (fun session request => (session.step request).1) session).Coherent from
    kept {} fun id index found => by cases found
  induction requests with
  | nil => exact fun session coherent => coherent
  | cons request rest inductionHypothesis =>
    exact fun session coherent => inductionHypothesis _ (coherent.step request)

/-- A coherent session cuts the present content, and finds the line by the index of that content. -/
theorem Coherent.snippet?_eq (coherent : session.Coherent) (id : Int64) (offset length : Nat) :
    (session.snippet? id offset length).2 =
      (session.set.content? id).bind fun content => SourceTrace.snippet? content offset length := by
  simp only [Session.snippet?]
  cases present : session.set.content? id with
  | none => rfl
  | some content =>
    have index := coherent.lineIndex?_eq id
    rw [present] at index
    simp only [Option.bind_some, SourceTrace.snippet?]
    cases Text.slice? (Text.bytes content) offset length with
    | none => rfl
    | some part => simp [index, LineIndex.lineOf_ofText]

/-- The numbers of a set are those under which a file was inserted. -/
theorem mem_ids_iff (requests : List Request) (id : Int64) :
    id ∈ (after requests).set.files.map Prod.fst ↔
      id ∈ (insertions requests).map Prod.fst := by
  have inserted :
      id ∈ (insertions requests).map Prod.fst ↔ (latest? requests id).isSome = true := by
    rw [latest?, List.lookup_isSome_iff]
    simp
  rw [inserted, ← get?_after, Option.isSome_iff_exists]
  simp [mem_files_iff]

/-- After any requests a session answers as the map in which the latest insertion under each number
counts. An insertion gives back the file that it replaces. A file is found with its own path and
content, and a range is cut from that content with the line that it has there, whatever content of
the number was indexed before. The listing has every number that was inserted once, with its latest
path, in ascending order, and the size of the set is the number of different ones. -/
theorem answers_last_write (requests : List Request) :
    (∀ id file, ((after requests).step (.insert id file)).2 = .replaced (latest? requests id)) ∧
    (∀ id, ((after requests).step (.get id)).2 =
      .found ((latest? requests id).map fun file =>
        (file, file.lineIndex?.map LineIndex.count))) ∧
    (∀ id offset length, ((after requests).step (.snippet id offset length)).2 =
      .snippet ((latest? requests id).bind fun file =>
        file.content.bind fun content => SourceTrace.snippet? content offset length)) ∧
    (∃ files, ((after requests).step .list).2 = .listing files ∧
      (files.Pairwise fun first second => first.1 < second.1) ∧
      (∀ id, id ∈ files.map Prod.fst ↔ id ∈ (insertions requests).map Prod.fst) ∧
      ∀ id path, (id, path) ∈ files ↔
        (latest? requests id).map SourceFile.path = some path) ∧
    (after requests).set.size = ((insertions requests).map Prod.fst).toFinset.card := by
  have coherent := coherent_after requests
  refine ⟨?_, ?_, ?_, ⟨_, rfl, ?_, ?_, ?_⟩, ?_⟩
  · intro id file
    simp only [Session.step, get?_after]
  · intro id
    simp only [Session.step, coherent.lineIndex?_eq, get?_after, content?_after]
    cases latest? requests id <;> rfl
  · intro id offset length
    simp only [Session.step, coherent.snippet?_eq, content?_after, Option.bind_assoc]
  · rw [List.pairwise_map]
    exact (after requests).set.ascending
  · intro id
    rw [List.map_map, ← mem_ids_iff]
    rfl
  · intro id path
    rw [← get?_after]
    simp [mem_files_iff, eq_comm]
  · have sameIds : ((after requests).set.files.map Prod.fst).toFinset =
        ((insertions requests).map Prod.fst).toFinset := by
      ext id
      rw [List.mem_toFinset, List.mem_toFinset, mem_ids_iff]
    rw [← sameIds, List.toFinset_card_of_nodup (nodup_ids _), List.length_map]
    rfl

end Session

end SourceTrace.SourceSet

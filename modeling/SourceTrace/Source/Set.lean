import SourceTrace.Source.File

/-!
# Source sets

Source files by the number that the compiler gave them, in ascending order of the numbers.
-/

namespace SourceTrace

/-- A numbered source file. -/
abbrev Numbered := Int64 × SourceFile

/-- Puts a file at its place among files in ascending order; it replaces a file of the same
number. -/
def placeFile (id : Int64) (file : SourceFile) : List Numbered → List Numbered
  | [] => [(id, file)]
  | (other, old) :: rest =>
    if id < other then (id, file) :: (other, old) :: rest
    else if other < id then (other, old) :: placeFile id file rest
    else (id, file) :: rest

/-- Every number after placing a file is the new number or was there before. -/
theorem mem_placeFile {id : Int64} {file : SourceFile} {files : List Numbered} {entry : Numbered}
    (h : entry ∈ placeFile id file files) : entry.1 = id ∨ entry ∈ files := by
  induction files with
  | nil =>
    simp only [placeFile, List.mem_singleton] at h
    exact Or.inl (h ▸ rfl)
  | cons head rest inductionHypothesis =>
    obtain ⟨other, old⟩ := head
    simp only [placeFile] at h
    split at h
    · rcases List.mem_cons.mp h with equal | mem
      · exact Or.inl (equal ▸ rfl)
      · exact Or.inr mem
    · split at h
      · rcases List.mem_cons.mp h with equal | mem
        · exact Or.inr (equal ▸ List.mem_cons_self)
        · exact (inductionHypothesis mem).imp_right (List.mem_cons_of_mem _)
      · rcases List.mem_cons.mp h with equal | mem
        · exact Or.inl (equal ▸ rfl)
        · exact Or.inr (List.mem_cons_of_mem _ mem)

/-- Files in ascending order of their numbers. -/
abbrev Ascending (files : List Numbered) : Prop :=
  files.Pairwise fun first second => first.1 < second.1

/-- Placing a file keeps the order. -/
theorem ascending_placeFile {id : Int64} {file : SourceFile} {files : List Numbered}
    (h : Ascending files) : Ascending (placeFile id file files) := by
  induction files with
  | nil => exact List.pairwise_singleton _ _
  | cons head rest inductionHypothesis =>
    obtain ⟨other, old⟩ := head
    obtain ⟨least, ordered⟩ := List.pairwise_cons.mp h
    simp only [placeFile]
    split
    case isTrue below =>
      refine List.pairwise_cons.mpr ⟨?_, h⟩
      intro entry mem
      rcases List.mem_cons.mp mem with equal | later
      · exact equal ▸ below
      · exact Int64.lt_trans below (least entry later)
    case isFalse notBelow =>
      split
      case isTrue above =>
        refine List.pairwise_cons.mpr ⟨?_, inductionHypothesis ordered⟩
        intro entry mem
        rcases mem_placeFile mem with equal | later
        · exact equal ▸ above
        · exact least entry later
      case isFalse notAbove =>
        have equal : id = other :=
          Int64.le_antisymm (Int64.not_lt.mp notAbove) (Int64.not_lt.mp notBelow)
        exact List.pairwise_cons.mpr ⟨equal ▸ least, ordered⟩

/-- Source files by number. -/
structure SourceSet where
  /-- Files in ascending order of their numbers. -/
  files : List Numbered
  /-- Each number occurs once, and in order. -/
  ascending : Ascending files

namespace SourceSet

/-- No files. -/
def empty : SourceSet :=
  ⟨[], List.Pairwise.nil⟩

/-- Gives a number a file, in place of any file it had. -/
def insert (set : SourceSet) (id : Int64) (file : SourceFile) : SourceSet :=
  ⟨placeFile id file set.files, ascending_placeFile set.ascending⟩

/-- The file of a number. -/
def get? (set : SourceSet) (id : Int64) : Option SourceFile :=
  set.files.lookup id

/-- The path of a file. -/
def path? (set : SourceSet) (id : Int64) : Option String :=
  (set.get? id).map SourceFile.path

/-- The content of a file. -/
def content? (set : SourceSet) (id : Int64) : Option String :=
  (set.get? id).bind SourceFile.content

/-- The number of files. -/
def size (set : SourceSet) : Nat :=
  set.files.length

/-- Whether there are no files. -/
def isEmpty (set : SourceSet) : Bool :=
  set.files.isEmpty

/-- The set of a list of numbered files, of which the last one of each number counts. -/
def ofList (files : List Numbered) : SourceSet :=
  files.foldl (fun set file => set.insert file.1 file.2) empty

end SourceSet

end SourceTrace

import Mathlib.Data.List.Forall2
import SourceTrace.Source.Set

/-!
# Source sets as maps

A source set gives each number the file that was inserted for it last. `SourceSet.get?_insert` says
so for one insertion and `SourceSet.get?_ofList` for a list of files. What is listed is what is
found, by `SourceSet.mem_files_iff`. Lists of files that are related one by one, with the same
numbers, give sets that are related in the same way: `SourceSet.forall₂_ofList`.
-/

namespace SourceTrace

/-- A number is found at the front, or else behind it. -/
theorem lookup_numbered_cons {α : Type} (id other : Int64) (value : α)
    (rest : List (Int64 × α)) :
    List.lookup other ((id, value) :: rest) =
      if other = id then some value else rest.lookup other := by
  by_cases same : other = id
  · simp [same]
  · have differs : (other == id) = false := beq_eq_false_iff_ne.mpr same
    rw [if_neg same, List.lookup_cons, differs]

/-- Dropping a key leaves it no value and the other keys theirs. -/
theorem lookup_filter_ne {α β : Type} [BEq α] [LawfulBEq α] [DecidableEq α] (key other : α)
    (entries : List (α × β)) :
    (entries.filter fun entry => entry.1 ≠ key).lookup other =
      if other = key then none else entries.lookup other := by
  induction entries with
  | nil => simp
  | cons head rest inductionHypothesis =>
    obtain ⟨first, value⟩ := head
    by_cases dropped : first = key
    · rw [List.filter_cons_of_neg (by simpa using dropped), inductionHypothesis, List.lookup_cons,
        dropped]
      split
      · rfl
      · rename_i differs
        rw [beq_eq_false_iff_ne.mpr differs]
    · rw [List.filter_cons_of_pos (by simpa using dropped), List.lookup_cons, List.lookup_cons,
        inductionHypothesis]
      by_cases found : other = first
      · simp [found, dropped]
      · simp [beq_eq_false_iff_ne.mpr found]

/-- A file at its place is found under its number, and all other files are found as before. -/
theorem lookup_placeFile (id other : Int64) (file : SourceFile) (files : List Numbered) :
    (placeFile id file files).lookup other =
      if other = id then some file else files.lookup other := by
  induction files with
  | nil => exact lookup_numbered_cons id other file []
  | cons head rest inductionHypothesis =>
    obtain ⟨first, old⟩ := head
    simp only [placeFile]
    split
    case isTrue below => exact lookup_numbered_cons id other file _
    case isFalse notBelow =>
      split
      case isTrue above =>
        have differs : first ≠ id := fun equal => Int64.lt_irrefl (equal ▸ above)
        rw [lookup_numbered_cons, lookup_numbered_cons, inductionHypothesis]
        by_cases found : other = first
        · simp [found, differs]
        · simp [found]
      case isFalse notAbove =>
        have equal : id = first :=
          Int64.le_antisymm (Int64.not_lt.mp notAbove) (Int64.not_lt.mp notBelow)
        rw [lookup_numbered_cons, lookup_numbered_cons, equal]
        split <;> rfl

/-- Related files of the same number are placed at the same position among related files. -/
theorem forall₂_placeFile {Related : Numbered → Numbered → Prop}
    (numbers : ∀ first second, Related first second → first.1 = second.1)
    {file other : Numbered} {files others : List Numbered} (placed : Related file other)
    (related : List.Forall₂ Related files others) :
    List.Forall₂ Related (placeFile file.1 file.2 files) (placeFile other.1 other.2 others) := by
  obtain ⟨id, file⟩ := file
  obtain ⟨otherId, other⟩ := other
  obtain rfl : id = otherId := numbers _ _ placed
  induction related with
  | nil => exact .cons placed .nil
  | @cons head otherHead rest otherRest heads rests inductionHypothesis =>
    obtain ⟨first, old⟩ := head
    obtain ⟨otherFirst, otherOld⟩ := otherHead
    obtain rfl : first = otherFirst := numbers _ _ heads
    simp only [placeFile]
    split
    · exact .cons placed (.cons heads rests)
    · split
      · exact .cons heads inductionHypothesis
      · exact .cons placed rests

namespace SourceSet

/-- The files of a set are those that are found under their numbers. -/
theorem mem_files_iff (set : SourceSet) (id : Int64) (file : SourceFile) :
    (id, file) ∈ set.files ↔ set.get? id = some file := by
  obtain ⟨files, ascending⟩ := set
  simp only [get?]
  induction files with
  | nil => simp
  | cons head rest inductionHypothesis =>
    obtain ⟨other, first⟩ := head
    obtain ⟨least, ordered⟩ := List.pairwise_cons.mp ascending
    rw [List.mem_cons, inductionHypothesis ordered, lookup_numbered_cons, Prod.mk.injEq]
    by_cases same : id = other
    · -- The numbers behind are greater, so the number is not found a second time.
      have absent : rest.lookup id = none := by
        rw [List.lookup_eq_none_iff]
        intro entry mem
        have behind := least entry mem
        rw [bne_iff_ne]
        rintro rfl
        exact Int64.lt_irrefl (same ▸ behind)
      simp [same ▸ absent, same, eq_comm]
    · simp [same]

/-- The numbers of a set are distinct. -/
theorem nodup_ids (set : SourceSet) : (set.files.map Prod.fst).Nodup := by
  rw [List.nodup_iff_pairwise_ne, List.pairwise_map]
  refine set.ascending.imp ?_
  intro first second below same
  exact Int64.lt_irrefl (same ▸ below)

/-- An inserted file is found under its number, and all other files stay as they are. -/
theorem get?_insert (set : SourceSet) (id other : Int64) (file : SourceFile) :
    (set.insert id file).get? other = if other = id then some file else set.get? other :=
  lookup_placeFile id other file set.files

/-- The file of a number in the set of a list is the last one of that number in the list. -/
theorem get?_ofList (files : List Numbered) (id : Int64) :
    (ofList files).get? id = files.reverse.lookup id := by
  suffices inserted : ∀ set : SourceSet,
      (files.foldl (fun set file => set.insert file.1 file.2) set).get? id =
        (files.reverse.lookup id).or (set.get? id) by
    rw [ofList, inserted]
    exact Option.or_none
  -- The set grows with every file, so the statement is about insertion into any set.
  induction files with
  | nil => exact fun set => rfl
  | cons file rest inductionHypothesis =>
    intro set
    have last : (if id = file.1 then some file.2 else set.get? id) =
        (List.lookup id [file]).or (set.get? id) := by
      rw [lookup_numbered_cons]
      split <;> rfl
    rw [List.foldl_cons, inductionHypothesis, get?_insert, last, List.reverse_cons,
      List.lookup_append, Option.or_assoc]

/-- The sets of related lists of files have related files. -/
theorem forall₂_ofList {Related : Numbered → Numbered → Prop}
    (numbers : ∀ first second, Related first second → first.1 = second.1)
    {files others : List Numbered} (related : List.Forall₂ Related files others) :
    List.Forall₂ Related (ofList files).files (ofList others).files := by
  suffices inserted : ∀ set other : SourceSet, List.Forall₂ Related set.files other.files →
      List.Forall₂ Related (files.foldl (fun set file => set.insert file.1 file.2) set).files
        (others.foldl (fun set file => set.insert file.1 file.2) other).files from
    inserted empty empty .nil
  -- Both sets grow with every file, so the statement is about insertion into any related sets.
  induction related with
  | nil => exact fun set other kept => kept
  | cons placed _ inductionHypothesis =>
    exact fun set other kept => inductionHypothesis _ _ (forall₂_placeFile numbers placed kept)

end SourceSet

end SourceTrace

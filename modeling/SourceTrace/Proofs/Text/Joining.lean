import Mathlib.Algebra.GroupWithZero.Nat
import SourceTrace.Text.Number

/-!
# Joining and splitting texts

Texts put between separators come apart again where the separator stands in none of them, and so do
lines that each end in a line feed.
-/

namespace SourceTrace.Text

/-- A character of joined pieces is one of a piece or of the separator. -/
theorem mem_intercalate {separator : String} {pieces : List String} {c : Char}
    (mem : c ∈ (separator.intercalate pieces).toList) :
    c ∈ separator.toList ∨ ∃ piece ∈ pieces, c ∈ piece.toList := by
  induction pieces with
  | nil => simp at mem
  | cons piece rest inductionHypothesis =>
    cases rest with
    | nil =>
      rw [String.intercalate_singleton] at mem
      exact Or.inr ⟨piece, List.mem_cons_self, mem⟩
    | cons next rest =>
      rw [String.intercalate_cons_cons, String.toList_append, String.toList_append,
        List.mem_append, List.mem_append] at mem
      rcases mem with (here | between) | later
      · exact Or.inr ⟨piece, List.mem_cons_self, here⟩
      · exact Or.inl between
      · rcases inductionHypothesis later with between | ⟨other, member, here⟩
        · exact Or.inl between
        · exact Or.inr ⟨other, List.mem_cons_of_mem _ member, here⟩

/-- Joined texts are as long as the texts and the separators between them. -/
theorem length_intercalate (separator : String) (pieces : List String) :
    (separator.intercalate pieces).length =
      (pieces.map String.length).sum + separator.length * (pieces.length - 1) := by
  induction pieces with
  | nil => simp
  | cons piece rest inductionHypothesis =>
    cases rest with
    | nil => simp
    | cons next rest =>
      rw [String.intercalate_cons_cons, String.length_append, String.length_append,
        inductionHypothesis]
      simp only [List.map_cons, List.sum_cons, List.length_cons, Nat.add_sub_cancel, Nat.mul_succ]
      omega

/-- Texts that differ in one piece are joined to different texts. -/
theorem intercalate_middle_inj {separator piece other : String} (before after : List String) :
    separator.intercalate (before ++ piece :: after) =
      separator.intercalate (before ++ other :: after) ↔
      piece = other := by
  induction before with
  | nil =>
    cases after with
    | nil => simp
    | cons next rest =>
      rw [List.nil_append, List.nil_append, String.intercalate_cons_cons,
        String.intercalate_cons_cons]
      simp
  | cons first before inductionHypothesis =>
    obtain ⟨next, rest, listed⟩ : ∃ next rest, before ++ piece :: after = next :: rest :=
      List.exists_cons_of_ne_nil (by simp)
    obtain ⟨otherNext, otherRest, otherListed⟩ : ∃ next rest,
      before ++ other :: after = next :: rest :=
      List.exists_cons_of_ne_nil (by simp)
    rw [List.cons_append, List.cons_append, listed, otherListed, String.intercalate_cons_cons,
      String.intercalate_cons_cons, String.append_right_inj, ← listed, ← otherListed,
      inductionHypothesis]

/-- A piece more among others makes another text. -/
theorem intercalate_ne_of_fewer {separator : String} (separates : separator ≠ "") (piece : String)
    {before after : List String} (others : before ++ after ≠ []) :
    separator.intercalate (before ++ piece :: after) ≠
      separator.intercalate (before ++ after) := by
  intro same
  have lengths := congrArg String.length same
  have longer : 0 < separator.length := Nat.pos_of_ne_zero (by simpa using separates)
  have number : 0 < (before ++ after).length := List.length_pos_iff.mpr others
  rw [length_intercalate, length_intercalate] at lengths
  simp only [List.map_append, List.map_cons, List.sum_append, List.sum_cons, List.length_append,
    List.length_cons] at lengths number
  have separators : separator.length * (before.length + after.length - 1) <
      separator.length * (before.length + (after.length + 1) - 1) :=
    Nat.mul_lt_mul_of_pos_left (by omega) longer
  omega

/-- What stands behind the last occurrence of an item, and what stands before it, is determined. -/
theorem append_cons_inj_of_not_mem {α : Type} {item : α} {before behind other rest : List α}
    (same : before ++ item :: behind = other ++ item :: rest) (last : item ∉ behind)
    (otherLast : item ∉ rest) : before = other ∧ behind = rest := by
  rcases List.append_eq_append_iff.mp same with ⟨middle, rfl, split⟩ | ⟨middle, rfl, split⟩
  · -- A longer text before the item would have the item of the other side behind its own.
    cases middle with
    | nil => exact ⟨(List.append_nil before).symm, (List.cons.inj split).2⟩
    | cons head tail =>
      obtain ⟨rfl, rfl⟩ := List.cons.inj split
      exact absurd (List.mem_append_right tail List.mem_cons_self) last
  · cases middle with
    | nil => exact ⟨List.append_nil other, (List.cons.inj split).2.symm⟩
    | cons head tail =>
      obtain ⟨rfl, rfl⟩ := List.cons.inj split
      exact absurd (List.mem_append_right tail List.mem_cons_self) otherLast

section Marks

variable {α : Type} {first : α} {rest : List α}

/-- A text that starts with a mark holds it before another one, unless both are the same. The mark
cannot overlap itself, since its first character occurs only once in it. -/
theorem eq_nil_of_mark_eq (once : first ∉ rest) {extra after otherAfter : List α}
    (clear : ¬ first :: rest <:+: extra)
    (same : first :: rest ++ after = extra ++ (first :: rest ++ otherAfter)) : extra = [] := by
  cases extra with
  | nil => rfl
  | cons head extra =>
    rw [List.cons_append, List.cons_append, List.cons.injEq] at same
    obtain ⟨rfl, same⟩ := same
    obtain ⟨more, rfl, -⟩ | ⟨overlap, rfl, same⟩ := List.append_eq_append_iff.mp same
    · exact absurd ⟨[], more, by simp⟩ clear
    · cases overlap with
      | nil => exact absurd (by simp) clear
      | cons other overlap =>
        rw [List.cons_append, List.cons_append, List.cons.injEq] at same
        exact absurd (same.1 ▸ by simp) once

/-- Pieces that do not hold a mark end where it stands. -/
theorem append_mark_inj (once : first ∉ rest) {piece other after otherAfter : List α}
    (clear : ¬ first :: rest <:+: piece) (otherClear : ¬ first :: rest <:+: other)
    (same : piece ++ (first :: rest ++ after) = other ++ (first :: rest ++ otherAfter)) :
    piece = other ∧ after = otherAfter := by
  have equal : piece = other := by
    obtain ⟨extra, rfl, behind⟩ | ⟨extra, rfl, behind⟩ := List.append_eq_append_iff.mp same
    · have inside : extra <:+: piece ++ extra := (List.suffix_append piece extra).isInfix
      simp [eq_nil_of_mark_eq once (fun held => otherClear (held.trans inside)) behind]
    · have inside : extra <:+: other ++ extra := (List.suffix_append other extra).isInfix
      simp [eq_nil_of_mark_eq once (fun held => clear (held.trans inside)) behind]
  subst equal
  exact ⟨rfl, by simpa using same⟩

/-- Pieces that do not hold the mark at the start of a separator can be told from the joined
text. -/
theorem intercalate_inj_of_clear (once : first ∉ rest) (tail : List α)
    {pieces others : List (List α)} (clear : ∀ piece ∈ pieces, ¬ first :: rest <:+: piece)
    (otherClear : ∀ other ∈ others, ¬ first :: rest <:+: other)
    (nonempty : pieces ≠ []) (otherNonempty : others ≠ [])
    (same : (first :: rest ++ tail).intercalate pieces =
      (first :: rest ++ tail).intercalate others) :
    pieces = others := by
  have held (piece after : List α) :
      first :: rest <:+: piece ++ (first :: rest ++ tail) ++ after :=
    ⟨piece, tail ++ after, by simp⟩
  induction pieces generalizing others with
  | nil => exact absurd rfl nonempty
  | cons piece pieces inductionHypothesis =>
    obtain ⟨other, others, rfl⟩ := List.exists_cons_of_ne_nil otherNonempty
    have pieceClear := clear piece List.mem_cons_self
    have headClear := otherClear other List.mem_cons_self
    cases pieces with
    | nil =>
      cases others with
      | nil => simpa using same
      | cons next others =>
        rw [List.intercalate_singleton, List.intercalate_cons_cons] at same
        exact absurd (same ▸ held other _) pieceClear
    | cons following pieces =>
      cases others with
      | nil =>
        rw [List.intercalate_singleton, List.intercalate_cons_cons] at same
        exact absurd (same ▸ held piece _) headClear
      | cons next others =>
        rw [List.intercalate_cons_cons, List.intercalate_cons_cons] at same
        obtain ⟨rfl, behind⟩ := append_mark_inj once pieceClear headClear (by simpa using same)
        rw [inductionHypothesis (fun piece mem => clear piece (List.mem_cons_of_mem _ mem))
          (fun other mem => otherClear other (List.mem_cons_of_mem _ mem)) (by simp) (by simp)
          (by simpa using behind)]

end Marks

/-- Splitting at a separator that stands in no piece gives the pieces back. -/
theorem splitOn_toList_intercalate {separator : Char} {pieces : List String}
    (clear : ∀ piece ∈ pieces, separator ∉ piece.toList) (nonempty : pieces ≠ []) :
    (((String.singleton separator).intercalate pieces).toList.splitOn separator).map String.ofList =
      pieces := by
  rw [String.toList_intercalate, String.toList_singleton, List.splitOn_intercalate separator]
  · simp
  · simpa using clear
  · simpa using nonempty

/-- A text is its pieces, put together again with the separator between them. -/
theorem intercalate_splitOn_toList (separator : Char) (text : String) :
    (String.singleton separator).intercalate ((text.toList.splitOn separator).map String.ofList) =
      text := by
  rw [← String.toList_inj, String.toList_intercalate, String.toList_singleton, List.map_map]
  simp [Function.comp_def, List.intercalate_splitOn]

/-- Lines that each end in a line feed are the lines with a last empty one, joined by line feeds. -/
theorem join_lines (lines : List String) :
    String.join (lines.map (· ++ "\n")) = "\n".intercalate (lines ++ [""]) := by
  induction lines with
  | nil => rfl
  | cons line rest inductionHypothesis =>
    obtain ⟨next, later, listed⟩ :=
      List.exists_cons_of_ne_nil (List.append_ne_nil_of_right_ne_nil rest
      (List.cons_ne_nil "" []))
    rw [List.map_cons, String.join_cons, inductionHypothesis, List.cons_append, listed,
      String.intercalate_cons_cons]

/-- Splitting lines at line feeds gives the lines back, and nothing follows the last line feed. -/
theorem splitOn_join_lines {lines : List String}
    (clear : ∀ line ∈ lines, '\n' ∉ line.toList) :
    ((String.join (lines.map (· ++ "\n"))).toList.splitOn '\n').map String.ofList =
      lines ++ [""] := by
  rw [join_lines]
  apply @splitOn_toList_intercalate '\n'
  · intro line mem
    rcases List.mem_append.mp mem with own | last
    · exact clear line own
    · simp [List.mem_singleton.mp last]
  · simp

end SourceTrace.Text

import Mathlib.Order.Monotone.Basic
import SourceTrace.Source.File

/-!
# Lines of offsets

The line of an offset is found by binary search among the line starts. `lineOf_ofText` shows that it
is one more than the number of line feeds before the offset, so the cut with a line index and the
one that counts agree, by `SourceFile.snippet?_eq`. Since no two lines start at the same offset,
every search among the starts reports that line, be the offset a start or not:
`lineOf_counts_lineFeeds`.
-/

namespace SourceTrace

namespace LineIndex

/-- Lines start behind the first offset. -/
theorem lt_of_mem_startsFrom {offset start : Nat} {data : List UInt8}
    (mem : start ∈ startsFrom offset data) : offset < start := by
  induction data generalizing offset with
  | nil => cases mem
  | cons byte rest inductionHypothesis =>
    simp only [startsFrom] at mem
    split at mem
    · rcases List.mem_cons.mp mem with rfl | later
      · omega
      · have behind := inductionHypothesis later
        omega
    · have behind := inductionHypothesis mem
      omega

/-- The line starts up to an offset are as many as the line feeds before it, and they come first. -/
theorem any_le_getElem?_startsFrom (first offset index : Nat) (data : List UInt8) :
    ((startsFrom first data)[index]?).any (· ≤ first + offset) = true ↔
      index < (data.take offset).count lineFeed := by
  induction data generalizing first offset index with
  | nil => simp [startsFrom]
  | cons byte rest inductionHypothesis =>
    cases offset with
    | zero =>
      -- No start is at or before the first offset.
      cases found : (startsFrom first (byte :: rest))[index]? with
      | none => simp
      | some start =>
        have behind := lt_of_mem_startsFrom (List.mem_of_getElem? found)
        simp only [Option.any_some, Nat.add_zero, List.take_zero, List.count_nil, decide_eq_true_eq]
        omega
    | succ offset =>
      have shifted := inductionHypothesis (first + 1) offset
      rw [show first + 1 + offset = first + (offset + 1) by omega] at shifted
      simp only [startsFrom, List.take_succ_cons]
      by_cases feed : byte = lineFeed
      · rw [if_pos feed, feed, List.count_cons_self]
        cases index with
        | zero =>
          simp only [List.getElem?_cons_zero, Option.any_some, decide_eq_true_eq]
          omega
        | succ index =>
          rw [List.getElem?_cons_succ, shifted index]
          omega
      · rw [if_neg feed, List.count_cons_of_ne feed, shifted index]

/-- The search finds the place that divides the entries within the bound from the others. -/
theorem search_eq {entries : Array Nat} {bound low high place : Nat}
    (divides : ∀ index, (entries[index]?).any (· ≤ bound) = true ↔ index < place)
    (lowest : low ≤ place) (highest : place ≤ high) :
    search entries bound low high = place := by
  fun_induction search entries bound low high with
  | case1 low high inside middle within inductionHypothesis =>
    rw [divides middle] at within
    exact inductionHypothesis within highest
  | case2 low high inside middle beyond inductionHypothesis =>
    rw [divides middle] at beyond
    exact inductionHypothesis lowest (by omega)
  | case3 low high outside => omega

/-- The line starts at or before an offset come first, and there is one for the first line and one
for each line feed before the offset. -/
theorem any_le_getElem?_starts (text : String) (offset index : Nat) :
    ((ofText text).starts[index]?).any (· ≤ offset) = true ↔
      index < 1 + ((Text.bytes text).take offset).count lineFeed := by
  cases index with
  | zero =>
    simp only [ofText, List.getElem?_toArray, List.getElem?_cons_zero, Option.any_some,
      Nat.zero_le, decide_true, true_iff]
    omega
  | succ index =>
    have later := any_le_getElem?_startsFrom 0 offset index (Text.bytes text)
    rw [Nat.zero_add] at later
    simp only [ofText, List.getElem?_toArray, List.getElem?_cons_succ, later]
    omega

/-- No line number is above the number of lines. -/
theorem one_add_count_lineFeed_le_count (text : String) (offset : Nat) :
    1 + ((Text.bytes text).take offset).count lineFeed ≤ (ofText text).count := by
  -- A count beyond the last line would give the place behind the last start a start.
  apply Nat.le_of_not_gt
  intro beyond
  have present := (any_le_getElem?_starts text offset (ofText text).count).mpr beyond
  simp [count] at present

/-- The line of an offset is one more than the number of line feeds before it. -/
theorem lineOf_ofText (text : String) (offset : Nat) :
    (ofText text).lineOf offset = 1 + ((Text.bytes text).take offset).count lineFeed :=
  search_eq (any_le_getElem?_starts text offset) (Nat.zero_le _)
    (one_add_count_lineFeed_le_count text offset)

/-- A line starts at or before an offset exactly if it is not behind the line of the offset. -/
theorem lt_lineOf_iff (text : String) (offset index : Nat) :
    index < (ofText text).lineOf offset ↔
      ((ofText text).starts[index]?).any (· ≤ offset) = true := by
  rw [lineOf_ofText, any_le_getElem?_starts]

/-- Lines start one after the other. -/
theorem ascending_startsFrom (offset : Nat) (data : List UInt8) :
    (startsFrom offset data).Pairwise (· < ·) := by
  induction data generalizing offset with
  | nil => exact List.Pairwise.nil
  | cons byte rest inductionHypothesis =>
    rw [startsFrom]
    split
    · exact List.pairwise_cons.mpr ⟨fun start => lt_of_mem_startsFrom,
        inductionHypothesis (offset + 1)⟩
    · exact inductionHypothesis (offset + 1)

/-- No two lines start at the same offset, and they stand in order. -/
theorem starts_lt_starts {text : String} {index later start behind : Nat} (before : index < later)
    (first : (ofText text).starts[index]? = some start)
    (second : (ofText text).starts[later]? = some behind) : start < behind := by
  have ascending : (0 :: startsFrom 0 (Text.bytes text)).Pairwise (· < ·) :=
    List.pairwise_cons.mpr ⟨fun _ => lt_of_mem_startsFrom,
      ascending_startsFrom 0 (Text.bytes text)⟩
  simp only [ofText, List.getElem?_toArray] at first second
  obtain ⟨firstInside, rfl⟩ := List.getElem?_eq_some_iff.mp first
  obtain ⟨secondInside, rfl⟩ := List.getElem?_eq_some_iff.mp second
  exact List.pairwise_iff_getElem.mp ascending index later firstInside secondInside before

/-- What a search among ascending entries reports: where an entry stands, or where it would have to
be inserted. -/
inductive Place where
  /-- The entry at an index is the one that was searched. -/
  | found (index : Nat)
  /-- The entry is missing; it belongs in front of the entry at an index. -/
  | absent (index : Nat)

namespace Place

/-- Whether a place is one of an offset among line starts. -/
def IsOf (starts : Array Nat) (offset : Nat) : Place → Prop
  | found index => starts[index]? = some offset
  | absent index => index ≤ starts.size ∧ ∀ position start, starts[position]? = some start →
      (position < index → start < offset) ∧ (index ≤ position → offset < start)

/-- The number of entries up to a place, the one that was found included. -/
def line : Place → Nat
  | found index => index + 1
  | absent index => index

end Place

/-- A place is on one of the lines. -/
theorem Place.IsOf.line_le_size {starts : Array Nat} {offset : Nat} {place : Place}
    (isOf : place.IsOf starts offset) : place.line ≤ starts.size := by
  cases place with
  | found index => exact (Array.getElem?_eq_some_iff.mp isOf).1
  | absent index => exact isOf.1

/-- A start stands at or before an offset exactly if it stands before the place of the offset. -/
theorem any_le_getElem?_starts_iff_lt_line {text : String} {offset : Nat} {place : Place}
    (isOf : place.IsOf (ofText text).starts offset) (index : Nat) :
    ((ofText text).starts[index]?).any (· ≤ offset) = true ↔ index < place.line := by
  cases present : (ofText text).starts[index]? with
  | none =>
    have outside := Array.getElem?_eq_none_iff.mp present
    have inside := isOf.line_le_size
    simp only [Option.any_none, Bool.false_eq_true, false_iff]
    omega
  | some start =>
    simp only [Option.any_some, decide_eq_true_eq]
    cases place with
    | found other =>
      rw [Place.line]
      rcases Nat.lt_trichotomy index other with before | rfl | behind
      · have smaller := starts_lt_starts before present isOf
        omega
      · have same := Option.some.inj (present.symm.trans isOf)
        omega
      · have larger := starts_lt_starts behind isOf present
        omega
    | absent other =>
      obtain ⟨before, behind⟩ := isOf.2 index start present
      rw [Place.line]
      omega

/-- Whatever place a search reports, the line of the offset is the one of the place. -/
theorem lineOf_eq_line {text : String} {offset : Nat} {place : Place}
    (isOf : place.IsOf (ofText text).starts offset) : (ofText text).lineOf offset = place.line := by
  have counted (index : Nat) : index < (ofText text).lineOf offset ↔ index < place.line := by
    rw [lt_lineOf_iff, any_le_getElem?_starts_iff_lt_line isOf]
  have atLine := counted place.line
  have atLineOf := counted ((ofText text).lineOf offset)
  omega

/-- Later offsets are on the same line or on later ones. -/
theorem monotone_lineOf (text : String) : Monotone (ofText text).lineOf := by
  intro first second le
  rw [lineOf_ofText, lineOf_ofText]
  have sublist := List.take_sublist_take_left (l := Text.bytes text) le
  exact Nat.add_le_add_left (sublist.count_le lineFeed) 1

/-- The line of an offset is one more than the number of line feeds before it, and this is the line
that every search for the offset among the line starts reports. So lines ascend with the offsets,
and there is no line zero and no line behind the last one. -/
theorem lineOf_counts_lineFeeds (text : String) :
    (∀ offset, (ofText text).lineOf offset =
        1 + ((Text.bytes text).take offset).count lineFeed) ∧
      (∀ offset (place : Place), place.IsOf (ofText text).starts offset →
        (ofText text).lineOf offset = place.line) ∧
      Monotone (ofText text).lineOf ∧
      ∀ offset, 1 ≤ (ofText text).lineOf offset ∧
        (ofText text).lineOf offset ≤ (ofText text).count := by
  refine ⟨lineOf_ofText text, fun offset place => lineOf_eq_line, monotone_lineOf text, ?_⟩
  intro offset
  rw [lineOf_ofText]
  exact ⟨Nat.le_add_right 1 _, one_add_count_lineFeed_le_count text offset⟩

/-- The second line of this text is empty and starts at offset two, where a search finds it. Behind
the end a search would insert a fourth start. -/
theorem lineOf_counts_lineFeeds_empty_line :
    (ofText "a\n\nb").starts = #[0, 2, 3] ∧ (ofText "a\n\nb").lineOf 2 = (Place.found 1).line ∧
      (ofText "a\n\nb").lineOf 5 = (Place.absent 3).line := by
  have starts : (ofText "a\n\nb").starts = #[0, 2, 3] := by decide
  have reported := (lineOf_counts_lineFeeds "a\n\nb").2.1
  refine ⟨starts, reported 2 (.found 1) (by rw [starts]; rfl), reported 5 (.absent 3) ?_⟩
  rw [starts]
  refine ⟨Nat.le_refl 3, fun position start present => ?_⟩
  have member : start ∈ #[0, 2, 3] := Array.mem_of_getElem? present
  obtain ⟨inside, -⟩ := Array.getElem?_eq_some_iff.mp present
  simp at member inside
  omega

end LineIndex

/-- Cutting a file with its line index gives what cutting its content gives. -/
theorem SourceFile.snippet?_eq (file : SourceFile) (offset length : Nat) :
    file.snippet? offset length =
      file.content.bind fun content => SourceTrace.snippet? content offset length := by
  obtain ⟨path, content⟩ := file
  cases content with
  | none => rfl
  | some content =>
    simp [SourceFile.snippet?, SourceFile.lineIndex?, SourceTrace.snippet?, LineIndex.lineOf_ofText]

/-- A text can be cut exactly if it is long enough; the cut is the decoded slice with its line. -/
theorem snippet?_eq_some_iff (text : String) (offset length : Nat) (snippet : Snippet) :
    snippet? text offset length = some snippet ↔
      offset + length ≤ (Text.bytes text).length ∧
        snippet = ⟨Text.ofBytesLossy (((Text.bytes text).drop offset).take length),
          1 + ((Text.bytes text).take offset).count lineFeed⟩ := by
  simp only [snippet?, Text.slice?]
  split
  · rename_i long
    simp [long, eq_comm]
  · rename_i short
    simp [short]

end SourceTrace

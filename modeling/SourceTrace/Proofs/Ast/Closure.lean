import SourceTrace.Proofs.Ast.Visited

/-!
# Locating as a closure

The node that is located for a target has a range that covers the target.
`smallestContaining_closure` shows that going from the target to this range is a closure: locating
the range finds the same node at the same place, and a target inside another one is never located in
a longer node. The ranges of a tree need not be nested for this. What carries the argument is that
covering is transitive, although an empty range counts as one byte where it is covered and as no
byte where it covers.
-/

namespace SourceTrace

namespace SourceRange

/-- The end of a range is its offset and length together, if that has 64 bits. -/
theorem end?_eq_some_iff (range : SourceRange) (position : UInt64) :
    range.end? = some position ↔
      range.offset.toNat + range.length.toNat < UInt64.size ∧
        position.toNat = range.offset.toNat + range.length.toNat := by
  rw [end?]
  split
  · rename_i fits
    have sum : (range.offset + range.length).toNat = range.offset.toNat + range.length.toNat := by
      rw [UInt64.toNat_add, Nat.mod_eq_of_lt fits]
    rw [Option.some.injEq, ← UInt64.toNat_inj, sum]
    simp [fits, eq_comm]
  · rename_i overflows
    simp [overflows]

/-- A widened range is at least one byte long. -/
theorem toNat_length_widened (range : SourceRange) :
    range.widened.length.toNat = max range.length.toNat 1 := by
  simp only [widened]
  split
  · rename_i empty
    simp [empty]
  · rename_i full
    have positive : range.length.toNat ≠ 0 := fun zero => full (UInt64.toNat_inj.mp zero)
    omega

/-- Covering in natural numbers: the covered range is at least one byte wide, and the end of the
covering one fits into 64 bits. -/
theorem contains_iff (outer inner : SourceRange) :
    outer.contains inner = true ↔
      outer.fileId = inner.fileId ∧ outer.offset.toNat ≤ inner.offset.toNat ∧
        inner.offset.toNat + max inner.length.toNat 1 ≤
          outer.offset.toNat + outer.length.toNat ∧
        outer.offset.toNat + outer.length.toNat < UInt64.size := by
  have width := inner.toNat_length_widened
  have start : inner.widened.offset = inner.offset := rfl
  constructor
  · intro covers
    rw [contains] at covers
    split at covers
    · rename_i outerEnd innerEnd outerEnds innerEnds
      obtain ⟨outerFits, outerSum⟩ := (outer.end?_eq_some_iff outerEnd).mp outerEnds
      obtain ⟨innerFits, innerSum⟩ := (inner.widened.end?_eq_some_iff innerEnd).mp innerEnds
      rw [width, start] at innerSum
      simp only [Bool.and_eq_true, decide_eq_true_eq, UInt64.le_iff_toNat_le] at covers
      exact ⟨covers.1.1, covers.1.2, by omega, outerFits⟩
    · cases covers
  · rintro ⟨sameFile, starts, ends, fits⟩
    have innerFits : inner.offset.toNat + max inner.length.toNat 1 < UInt64.size := by omega
    have outerEnds : outer.end? = some (UInt64.ofNat (outer.offset.toNat + outer.length.toNat)) :=
      (outer.end?_eq_some_iff _).mpr ⟨fits, UInt64.toNat_ofNat_of_lt' fits⟩
    have innerEnds : inner.widened.end? =
        some (UInt64.ofNat (inner.offset.toNat + max inner.length.toNat 1)) := by
      rw [end?_eq_some_iff, width, start]
      exact ⟨innerFits, UInt64.toNat_ofNat_of_lt' innerFits⟩
    simp only [contains, outerEnds, innerEnds, sameFile, decide_true, Bool.true_and,
      Bool.and_eq_true, decide_eq_true_eq, UInt64.le_iff_toNat_le]
    rw [UInt64.toNat_ofNat_of_lt' fits, UInt64.toNat_ofNat_of_lt' innerFits]
    exact ⟨starts, ends⟩

/-- What a covered range covers is covered. -/
theorem contains_trans {outer middle inner : SourceRange} (above : outer.contains middle = true)
    (below : middle.contains inner = true) : outer.contains inner = true := by
  rw [contains_iff] at above below ⊢
  obtain ⟨sameFile, starts, ends, fits⟩ := above
  obtain ⟨innerFile, innerStarts, innerEnds, -⟩ := below
  exact ⟨sameFile.trans innerFile, by omega, by omega, fits⟩

/-- A range that covers anything is not empty and covers itself. -/
theorem contains_self_of_contains {outer inner : SourceRange}
    (covers : outer.contains inner = true) :
    outer.contains outer = true := by
  rw [contains_iff] at covers ⊢
  obtain ⟨-, starts, ends, fits⟩ := covers
  exact ⟨rfl, Nat.le_refl _, by omega, fits⟩

end SourceRange

namespace Ast

/-- A node covers a target with the length of a range that contains it. -/
theorem Node.coverLength?_eq_some_iff (target : SourceRange) (node : Node) (length : UInt64) :
    node.coverLength? target = some length ↔
      ∃ range, node.range? = some range ∧ range.contains target = true ∧
        range.length = length := by
  simp only [coverLength?, Option.map_eq_some_iff, Option.filter_eq_some_iff, and_assoc]

/-- A node that covers a range covers what lies in the range. -/
theorem Node.coverLength?_of_contains {outer inner : SourceRange} {node : Node} {length : UInt64}
    (inside : outer.contains inner = true) (covers : node.coverLength? outer = some length) :
    node.coverLength? inner = some length := by
  obtain ⟨range, ranged, contains, rfl⟩ :=
    (node.coverLength?_eq_some_iff outer length).mp covers
  exact (node.coverLength?_eq_some_iff inner _).mpr
    ⟨range, ranged, SourceRange.contains_trans contains inside, rfl⟩

/-- The node at a place of a list is the first of the shortest nodes that cover a target. -/
def IsFirstShortestAt (target : SourceRange) (nodes : List Node) (index : Nat) (node : Node) :
    Prop :=
  ∃ length, nodes[index]? = some node ∧ node.coverLength? target = some length ∧
    ∀ (place : Nat) (other : Node) (width : UInt64), nodes[place]? = some other →
      other.coverLength? target = some width →
      length ≤ width ∧ (place < index → length < width)

/-- The first of the shortest nodes stands somewhere in the list. -/
theorem isFirstShortest_iff_exists_at (target : SourceRange) (nodes : List Node) (node : Node) :
    IsFirstShortest target nodes node ↔ ∃ index, IsFirstShortestAt target nodes index node :=
  Iff.rfl

/-- The first shortest node around a target stays so for any target between the old one and its own
range, because whatever covers the new target covers the old one. -/
theorem IsFirstShortestAt.widen {target wider : SourceRange} {nodes : List Node} {index : Nat}
    {node : Node} {range : SourceRange} (first : IsFirstShortestAt target nodes index node)
    (ranged : node.range? = some range) (inside : wider.contains target = true)
    (covers : range.contains wider = true) : IsFirstShortestAt wider nodes index node := by
  obtain ⟨length, found, covered, least⟩ := first
  obtain ⟨_, same, -, rfl⟩ := (node.coverLength?_eq_some_iff target length).mp covered
  obtain rfl : range = _ := Option.some.inj (ranged.symm.trans same)
  refine ⟨range.length, found, ?_, ?_⟩
  · exact (node.coverLength?_eq_some_iff wider _).mpr ⟨range, ranged, covers, rfl⟩
  · intro place other width present otherCovers
    exact least place other width present (Node.coverLength?_of_contains inside otherCovers)

/-- The first of the shortest nodes has a range that contains the target. -/
theorem IsFirstShortest.exists_range {target : SourceRange} {nodes : List Node} {node : Node}
    (first : IsFirstShortest target nodes node) :
    ∃ range, node.range? = some range ∧ range.contains target = true := by
  obtain ⟨index, length, -, covers, -⟩ := first
  obtain ⟨range, ranged, contains, -⟩ := (node.coverLength?_eq_some_iff target length).mp covers
  exact ⟨range, ranged, contains⟩

/-- If some node covers a target, a node is located that is no longer than it. -/
theorem exists_smallestContaining_le {tree : Json} {target range : SourceRange} {node : Node}
    (mem : node ∈ nodes tree) (ranged : node.range? = some range)
    (covers : range.contains target = true) :
    ∃ shortest least, smallestContaining tree target = .ok shortest ∧
      shortest.range? = some least ∧ least.length ≤ range.length := by
  have covered : node.coverLength? target = some range.length :=
    (node.coverLength?_eq_some_iff target _).mpr ⟨range, ranged, covers, rfl⟩
  cases located : smallestContaining tree target with
  | error error =>
    have apart := ((smallestContaining_eq_error_iff tree target error).mp located).1 node mem
    rw [covered] at apart
    cases apart
  | ok shortest =>
    obtain ⟨index, length, -, shortestCovers, minimal⟩ :=
      (smallestContaining_eq_ok_iff tree target shortest).mp located
    obtain ⟨least, leastRanged, -, rfl⟩ :=
      (shortest.coverLength?_eq_some_iff target length).mp shortestCovers
    obtain ⟨place, present⟩ := List.mem_iff_getElem?.mp mem
    exact ⟨shortest, least, rfl, leastRanged, (minimal place node _ present covered).1⟩

/-- Locating is a closure on ranges. The range of the located node covers the target, and locating
it finds the very same node, at the same place in the order of visits. A target inside another one
is located wherever that one is, in a node that is no longer. -/
theorem smallestContaining_closure (tree : Json) :
    (∀ target node, smallestContaining tree target = .ok node →
      ∃ range place, node.range? = some range ∧ range.contains target = true ∧
        smallestContaining tree range = .ok node ∧
        IsFirstShortestAt target (nodes tree) place node ∧
        IsFirstShortestAt range (nodes tree) place node) ∧
    (∀ outer inner wide, outer.contains inner = true →
      smallestContaining tree outer = .ok wide →
      ∃ narrow wideRange narrowRange, smallestContaining tree inner = .ok narrow ∧
        wide.range? = some wideRange ∧ narrow.range? = some narrowRange ∧
        narrowRange.length ≤ wideRange.length) := by
  constructor
  · intro target node located
    have first := (smallestContaining_eq_ok_iff tree target node).mp located
    obtain ⟨range, ranged, covers⟩ := first.exists_range
    obtain ⟨place, firstAt⟩ := (isFirstShortest_iff_exists_at target (nodes tree) node).mp first
    have again : IsFirstShortestAt range (nodes tree) place node :=
      firstAt.widen ranged covers (SourceRange.contains_self_of_contains covers)
    have relocated : smallestContaining tree range = .ok node :=
      (smallestContaining_eq_ok_iff tree range node).mpr ⟨place, again⟩
    exact ⟨range, place, ranged, covers, relocated, firstAt, again⟩
  · intro outer inner wide inside located
    have first := (smallestContaining_eq_ok_iff tree outer wide).mp located
    obtain ⟨wideRange, ranged, covers⟩ := first.exists_range
    obtain ⟨place, length, present, -⟩ := first
    obtain ⟨narrow, narrowRange, narrowLocated, narrowRanged, shorter⟩ :=
      exists_smallestContaining_le (List.mem_of_getElem? present) ranged
        (SourceRange.contains_trans covers inside)
    exact ⟨narrow, wideRange, narrowRange, narrowLocated, ranged, narrowRanged, shorter⟩

/-- Two nodes of one length overlap without being nested. An empty target in both is located in the
first of them, and so is the range of that node; a longer target around the empty one is located in
the second, which is no shorter. -/
theorem smallestContaining_closure_overlapping :
    let left : Node := ⟨[("name", .str "left"), ("src", .str "5:10:0")]⟩
    let right : Node := ⟨[("name", .str "right"), ("src", .str "8:10:0")]⟩
    let tree : Json := .obj [("src", .str "0:40:0"), ("body", .arr [left.toJson, right.toJson])]
    smallestContaining tree ⟨12, 0, 0⟩ = .ok left ∧
      (∃ range, left.range? = some range ∧ smallestContaining tree range = .ok left) ∧
      SourceRange.contains ⟨12, 5, 0⟩ ⟨12, 0, 0⟩ = true ∧
      smallestContaining tree ⟨12, 5, 0⟩ = .ok right ∧
      ∃ narrow wideRange narrowRange, smallestContaining tree ⟨12, 0, 0⟩ = .ok narrow ∧
        right.range? = some wideRange ∧ narrow.range? = some narrowRange ∧
        narrowRange.length ≤ wideRange.length := by
  intro left right tree
  have located : smallestContaining tree ⟨12, 0, 0⟩ = .ok left := by
    rw [smallestContaining, visit_eq_foldl, flatMap_family_heldNodes]
    rfl
  have around : smallestContaining tree ⟨12, 5, 0⟩ = .ok right := by
    rw [smallestContaining, visit_eq_foldl, flatMap_family_heldNodes]
    rfl
  have inside : SourceRange.contains ⟨12, 5, 0⟩ ⟨12, 0, 0⟩ = true := by decide
  obtain ⟨idempotent, monotone⟩ := smallestContaining_closure tree
  obtain ⟨range, -, ranged, -, relocated, -⟩ := idempotent _ _ located
  exact ⟨located, ⟨range, ranged, relocated⟩, inside, around, monotone _ _ _ inside around⟩

end Ast

end SourceTrace

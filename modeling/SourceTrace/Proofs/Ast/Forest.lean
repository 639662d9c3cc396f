import SourceTrace.Proofs.Ast.Visited

/-!
# Forests

A forest is an array of source units. A unit is foreign to a file if none of its nodes lies in that
file. Neither the search for a covering node nor that for the path of a file sees foreign units, so
both depend only on the other ones and their order, which `unitsOf` keeps. Forests with the same
units of a file come from inserting and deleting foreign units, and from reordering where one unit
has all nodes of the file.
-/

namespace SourceTrace.Ast

/-- Whether no node of a unit lies in a file. -/
def isForeign (fileId : Int64) (unit : Json) : Bool :=
  (itemNodes [unit]).all fun node => node.range?.all fun range => range.fileId ≠ fileId

/-- The units that have a node in a file. -/
def unitsOf (fileId : Int64) (units : List Json) : List Json :=
  units.filter fun unit => !isForeign fileId unit

/-- One forest becomes another by inserting and deleting units that are foreign to a file. -/
inductive ForeignEdit (fileId : Int64) : List Json → List Json → Prop where
  | nil : ForeignEdit fileId [] []
  | keep {before after : List Json} (unit : Json) (edit : ForeignEdit fileId before after) :
      ForeignEdit fileId (unit :: before) (unit :: after)
  | insert {before after : List Json} {unit : Json} (foreign : isForeign fileId unit = true)
      (edit : ForeignEdit fileId before after) : ForeignEdit fileId before (unit :: after)
  | delete {before after : List Json} {unit : Json} (foreign : isForeign fileId unit = true)
      (edit : ForeignEdit fileId before after) : ForeignEdit fileId (unit :: before) after

/-- All nodes in a file belong to one unit: of any two units, one is foreign. -/
def InOneUnit (fileId : Int64) (units : List Json) : Prop :=
  units.Pairwise fun first second => isForeign fileId first = true ∨
    isForeign fileId second = true

section Units

variable {fileId : Int64} {unit : Json} {before after units : List Json}

/-- A unit of another file is left out. -/
theorem unitsOf_cons_of_foreign (foreign : isForeign fileId unit = true) (units : List Json) :
    unitsOf fileId (unit :: units) = unitsOf fileId units :=
  List.filter_cons_of_neg (by simp [foreign])

/-- A unit that is not of another file is kept. -/
theorem unitsOf_cons_of_not_foreign (own : ¬isForeign fileId unit = true) (units : List Json) :
    unitsOf fileId (unit :: units) = unit :: unitsOf fileId units :=
  List.filter_cons_of_pos (by simp [own])

/-- Editing with foreign units keeps the units of the file. -/
theorem ForeignEdit.unitsOf_eq (edit : ForeignEdit fileId before after) :
    unitsOf fileId before = unitsOf fileId after := by
  induction edit with
  | nil => rfl
  | keep unit edit inductionHypothesis =>
    by_cases foreign : isForeign fileId unit = true
    · rw [unitsOf_cons_of_foreign foreign, unitsOf_cons_of_foreign foreign, inductionHypothesis]
    · rw [unitsOf_cons_of_not_foreign foreign, unitsOf_cons_of_not_foreign foreign,
        inductionHypothesis]
  | insert foreign edit inductionHypothesis =>
    rw [unitsOf_cons_of_foreign foreign, inductionHypothesis]
  | delete foreign edit inductionHypothesis =>
    rw [unitsOf_cons_of_foreign foreign, inductionHypothesis]

/-- If all nodes of a file belong to one unit, there is at most one unit of the file. -/
theorem InOneUnit.length_unitsOf_le (single : InOneUnit fileId units) :
    (unitsOf fileId units).length ≤ 1 := by
  induction units with
  | nil => simp [unitsOf]
  | cons unit units inductionHypothesis =>
    obtain ⟨apart, rest⟩ := List.pairwise_cons.mp single
    by_cases foreign : isForeign fileId unit = true
    · rw [unitsOf_cons_of_foreign foreign]
      exact inductionHypothesis rest
    · have noneElse : unitsOf fileId units = [] := by
        simp only [unitsOf, List.filter_eq_nil_iff, Bool.not_eq_true', Bool.not_eq_false]
        intro other mem
        exact (apart other mem).resolve_left foreign
      rw [unitsOf_cons_of_not_foreign foreign, noneElse]
      exact Nat.le_refl 1

/-- Reordering keeps the units of a file if there is at most one of them. -/
theorem InOneUnit.unitsOf_eq_of_perm (single : InOneUnit fileId before)
    (reordered : before.Perm after) : unitsOf fileId before = unitsOf fileId after := by
  have own : (unitsOf fileId before).Perm (unitsOf fileId after) := reordered.filter _
  have few := single.length_unitsOf_le
  cases kept : unitsOf fileId before with
  | nil =>
    rw [kept] at own
    exact own.nil_eq
  | cons unit others =>
    rw [kept, List.length_cons] at few
    obtain rfl : others = [] := List.length_eq_zero_iff.mp (by omega)
    rw [kept] at own
    exact own.singleton_eq

end Units

section Searches

/-- The nodes of units are those of the first one and those of the others. -/
theorem itemNodes_cons (unit : Json) (units : List Json) :
    itemNodes (unit :: units) = itemNodes [unit] ++ itemNodes units := by
  cases unit <;> simp [itemNodes]

/-- A foreign unit has no node that covers a target in the file. -/
theorem coverLength?_eq_none_of_foreign {target : SourceRange} {unit : Json} {node : Node}
    (foreign : isForeign target.fileId unit = true) (mem : node ∈ itemNodes [unit]) :
    node.coverLength? target = none := by
  have elsewhere := List.all_eq_true.mp foreign node mem
  simp only [Node.coverLength?, Option.map_eq_none_iff, Option.filter_eq_none_iff]
  intro range ranged covers
  rw [ranged] at elsewhere
  simp [SourceRange.fileId_eq_of_contains covers] at elsewhere

/-- Visiting nodes that do not cover the target changes nothing. -/
theorem foldl_closer_eq_self {target : SourceRange} {visited : List Node}
    (apart : ∀ node ∈ visited, node.coverLength? target = none) (best : Option Candidate) :
    visited.foldl (closer target) best = best := by
  induction visited with
  | nil => rfl
  | cons node visited inductionHypothesis =>
    rw [List.foldl_cons, closer_of_coverLength?_eq_none (apart node List.mem_cons_self)]
    exact inductionHypothesis fun other mem => apart other (List.mem_cons_of_mem _ mem)

/-- A search through a forest keeps what it keeps in the units of the file. -/
theorem foldl_closer_unitsOf (target : SourceRange) (units : List Json) (best : Option Candidate) :
    (itemNodes units).foldl (closer target) best =
      (itemNodes (unitsOf target.fileId units)).foldl (closer target) best := by
  induction units generalizing best with
  | nil => rfl
  | cons unit units inductionHypothesis =>
    rw [itemNodes_cons, List.foldl_append]
    by_cases foreign : isForeign target.fileId unit = true
    · have unseen : (itemNodes [unit]).foldl (closer target) best = best :=
        foldl_closer_eq_self (fun node mem => coverLength?_eq_none_of_foreign foreign mem) best
      rw [unseen, unitsOf_cons_of_foreign foreign]
      exact inductionHypothesis best
    · rw [unitsOf_cons_of_not_foreign foreign, itemNodes_cons unit (unitsOf _ _),
        List.foldl_append]
      exact inductionHypothesis _

/-- Locating a range in a forest depends only on the units of its file. -/
theorem smallestContaining_unitsOf (target : SourceRange) (units : List Json) :
    smallestContaining (.arr units) target =
      smallestContaining (.arr (unitsOf target.fileId units)) target := by
  simp only [smallestContaining, visit_eq_foldl, flatMap_family_heldNodes, nodes]
  rw [foldl_closer_unitsOf]

/-- Forests with the same units of a file locate the same nodes in it. -/
theorem smallestContaining_eq_of_unitsOf_eq {target : SourceRange} {first second : List Json}
    (same : unitsOf target.fileId first = unitsOf target.fileId second) :
    smallestContaining (.arr first) target = smallestContaining (.arr second) target := by
  rw [smallestContaining_unitsOf, same, ← smallestContaining_unitsOf]

/-- A foreign unit is not the source unit of the file. -/
theorem isUnitOf_eq_false_of_foreign {fileId : Int64} {unit : Json} {node : Node}
    (foreign : isForeign fileId unit = true) (is : Node.ofJson? unit = some node) :
    isUnitOf fileId node = false := by
  have mem : node ∈ itemNodes [unit] := by
    rw [← flatMap_family_items]
    simp [is, Node.family]
  have elsewhere := List.all_eq_true.mp foreign node mem
  cases ranged : node.range? with
  | none => simp [isUnitOf, ranged]
  | some range =>
    rw [ranged] at elsewhere
    simp only [Option.all_some, decide_eq_true_eq] at elsewhere
    simp [isUnitOf, ranged, elsewhere]

/-- The path of a file in a forest depends only on the units of the file. -/
theorem unitPath?_unitsOf (fileId : Int64) (items : List Json) :
    unitPath? (.arr items) fileId = unitPath? (.arr (unitsOf fileId items)) fileId := by
  have found : (units (.arr items)).find? (isUnitOf fileId) =
      (units (.arr (unitsOf fileId items))).find? (isUnitOf fileId) := by
    simp only [units]
    induction items with
    | nil => rfl
    | cons item items inductionHypothesis =>
      by_cases foreign : isForeign fileId item = true
      · rw [unitsOf_cons_of_foreign foreign, ← inductionHypothesis]
        cases is : Node.ofJson? item with
        | none => rw [List.filterMap_cons_none is]
        | some node =>
          rw [List.filterMap_cons_some is, List.find?_cons_of_neg]
          simp [isUnitOf_eq_false_of_foreign foreign is]
      · rw [unitsOf_cons_of_not_foreign foreign]
        cases is : Node.ofJson? item with
        | none => rw [List.filterMap_cons_none is, List.filterMap_cons_none is, inductionHypothesis]
        | some node =>
          rw [List.filterMap_cons_some is, List.filterMap_cons_some is, List.find?_cons,
            List.find?_cons, inductionHypothesis]
  rw [unitPath?, unitPath?, found]

/-- Forests with the same units of a file have the same path for it. -/
theorem unitPath?_eq_of_unitsOf_eq {fileId : Int64} {first second : List Json}
    (same : unitsOf fileId first = unitsOf fileId second) :
    unitPath? (.arr first) fileId = unitPath? (.arr second) fileId := by
  rw [unitPath?_unitsOf, same, ← unitPath?_unitsOf]

end Searches

end SourceTrace.Ast

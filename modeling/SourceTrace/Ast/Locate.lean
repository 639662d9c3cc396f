import SourceTrace.Ast.Node

/-!
# Locating nodes

The nodes of a tree are the objects that are reached from its root through members that are objects
and through the items of arrays that are members; arrays inside arrays are not entered. They are
visited in document order, each before the nodes below it. The nodes still to be visited wait on a
stack, so that a deep tree needs no deep recursion.
-/

namespace SourceTrace.Ast

/-- The nodes that a value holds at once: the value itself if it is an object, the objects among its
items if it is an array. -/
def heldNodes : Json → List Node
  | .obj members => [⟨members⟩]
  | .arr items => items.filterMap Node.ofJson?
  | _ => []

/-- The nodes right below a node, in document order. -/
def Node.below (node : Node) : List Node :=
  node.members.flatMap fun member => heldNodes member.2

/-- The size of all that waits on a stack. -/
noncomputable def stackSize (stack : List Node) : Nat :=
  stack.foldr (fun node size => sizeOf node + size) 0

/-- Sizes of stacks add up. -/
theorem stackSize_append (first second : List Node) :
    stackSize (first ++ second) = stackSize first + stackSize second := by
  induction first with
  | nil => simp [stackSize]
  | cons node rest inductionHypothesis =>
    simp only [stackSize, List.cons_append, List.foldr_cons] at inductionHypothesis ⊢
    omega

/-- What a value holds is no larger than the value. -/
theorem stackSize_heldNodes_le (value : Json) : stackSize (heldNodes value) ≤ sizeOf value := by
  cases value with
  | obj members => simp [heldNodes, stackSize]
  | arr items =>
    have bounded : stackSize (items.filterMap Node.ofJson?) ≤ sizeOf items := by
      induction items with
      | nil => simp [stackSize]
      | cons item rest inductionHypothesis =>
        have grown : stackSize ((item :: rest).filterMap Node.ofJson?) ≤
            sizeOf item + stackSize (rest.filterMap Node.ofJson?) := by
          cases item <;> simp [stackSize, List.filterMap_cons, Node.ofJson?]
        simp only [List.cons.sizeOf_spec]
        omega
    simp only [heldNodes, Json.arr.sizeOf_spec]
    omega
  | _ => simp [heldNodes, stackSize]

/-- What lies below a node is smaller than the node. -/
theorem stackSize_below_lt (node : Node) : stackSize node.below < sizeOf node := by
  obtain ⟨members⟩ := node
  have bounded : stackSize (Node.below ⟨members⟩) ≤ sizeOf members := by
    induction members with
    | nil => simp [Node.below, stackSize]
    | cons member rest inductionHypothesis =>
      obtain ⟨key, value⟩ := member
      have held := stackSize_heldNodes_le value
      simp only [Node.below, List.flatMap_cons, stackSize_append] at inductionHypothesis ⊢
      simp only [List.cons.sizeOf_spec, Prod.mk.sizeOf_spec]
      omega
  simp only [Node.mk.sizeOf_spec]
  omega

/-- Visits the nodes on a stack, the top first, with all nodes below them. The nodes right below a
visited node go on top of the stack. -/
def visit {β : Type} (step : β → Node → β) (state : β) : List Node → β
  | [] => state
  | node :: stack => visit step (step state node) (node.below ++ stack)
  termination_by stack => stackSize stack
  decreasing_by
    have smaller := stackSize_below_lt node
    rw [stackSize_append]
    simp only [stackSize, List.foldr_cons] at smaller ⊢
    omega

/-- A node that covers the target, with the length of its range. -/
abbrev Candidate := UInt64 × Node

/-- The better of a candidate and a visited node: only a strictly shorter node replaces it. -/
def closer (target : SourceRange) (best : Option Candidate) (node : Node) : Option Candidate :=
  match node.range? with
  | none => best
  | some range =>
    if best.all (fun candidate => range.length < candidate.1) && range.contains target then
      some (range.length, node)
    else best

/-- The first of the shortest nodes that cover a source range. The tree is one source unit or an
array of them. -/
def smallestContaining (tree : Json) (target : SourceRange) : Except LookupError Node :=
  match visit (closer target) none (heldNodes tree) with
  | some (_, node) => .ok node
  | none => .error (.noContainingNode target.offset target.length target.fileId)

/-- The source units of a tree: its items, or the tree itself. -/
def units (tree : Json) : List Node :=
  match tree with
  | .arr items => items.filterMap Node.ofJson?
  | tree => (Node.ofJson? tree).toList

/-- Whether a node is the source unit of a file. -/
def isUnitOf (fileId : Int64) (node : Node) : Bool :=
  node.kind? = some .sourceUnit && node.range?.any (fun range => range.fileId = fileId)

/-- The path of a file according to the first source unit of the file. -/
def unitPath? (tree : Json) (fileId : Int64) : Option String :=
  (((units tree).find? (isUnitOf fileId)).map fun unit => unit.text "absolutePath").filter
    fun path => !path.isEmpty

end SourceTrace.Ast

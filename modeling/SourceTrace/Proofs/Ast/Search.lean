import SourceTrace.Proofs.Ast.Closure

/-!
# The search for a covering node

`smallestContaining_first_of_shortest` says all about the search with a stack: it visits the nodes
of a tree in document order, each before the nodes below it, and those are exactly the nodes that
can be reached; it returns the first of the shortest nodes whose `src` covers the target, and it
fails, naming the target, exactly if no reachable node has such a `src`. What can be reached does
not depend on the `src` of the nodes on the way, so nothing is lost below a node that has none or a
bad one.
-/

namespace SourceTrace.Ast

/-- A value shows a node: it is the object itself, or an array with the object among its items. An
array among the items shows nothing. -/
inductive Shows : Json → Node → Prop where
  | object (members : List (String × Json)) : Shows (.obj members) ⟨members⟩
  | item {items : List Json} {members : List (String × Json)} (mem : Json.obj members ∈ items) :
      Shows (.arr items) ⟨members⟩

/-- A node can be reached in a tree: the tree shows it, or a member of a node that can be reached
does. -/
inductive Reachable (tree : Json) : Node → Prop where
  | root {node : Node} (shown : Shows tree node) : Reachable tree node
  | member {node inner : Node} {key : String} {value : Json} (reached : Reachable tree node)
      (mem : (key, value) ∈ node.members) (shown : Shows value inner) : Reachable tree inner

/-- A node covers a target by a range: it has a text `src` that spells the range, and the range
covers the target. -/
def Node.CoversBy (target : SourceRange) (node : Node) (range : SourceRange) : Prop :=
  ∃ text, node.member? "src" = some (.str text) ∧ SourceRange.parse text = .ok range ∧
    range.contains target = true

section Reached

/-- A value is a node exactly if it is an object. -/
theorem ofJson?_eq_some_iff (value : Json) (node : Node) :
    Node.ofJson? value = some node ↔ value = .obj node.members := by
  cases value with
  | obj members =>
    simp only [Node.ofJson?, Option.some.injEq, Json.obj.injEq]
    exact ⟨fun same => same ▸ rfl, fun same => same ▸ rfl⟩
  | _ => simp [Node.ofJson?]

/-- The nodes that a value holds are those that it shows. -/
theorem mem_heldNodes_iff (value : Json) (node : Node) :
    node ∈ heldNodes value ↔ Shows value node := by
  constructor
  · intro held
    cases value with
    | obj members =>
      obtain rfl := List.mem_singleton.mp held
      exact .object members
    | arr items =>
      obtain ⟨item, mem, is⟩ := List.mem_filterMap.mp held
      rw [ofJson?_eq_some_iff] at is
      exact .item (is ▸ mem)
    | _ => cases held
  · intro shown
    cases shown with
    | object members => exact List.mem_singleton_self _
    | item mem => exact List.mem_filterMap.mpr ⟨_, mem, rfl⟩

/-- The nodes below a node are those that its members show. -/
theorem mem_below_iff (node inner : Node) :
    inner ∈ node.below ↔
      ∃ key value, (key, value) ∈ node.members ∧ Shows value inner := by
  simp only [Node.below, List.mem_flatMap, mem_heldNodes_iff, Prod.exists]

/-- A node on the stack is no larger than the stack. -/
theorem sizeOf_le_stackSize {stack : List Node} {node : Node} (mem : node ∈ stack) :
    sizeOf node ≤ stackSize stack := by
  obtain ⟨before, after, rfl⟩ := List.append_of_mem mem
  rw [stackSize_append]
  simp only [stackSize, List.foldr_cons]
  omega

/-- What holds of a node once it holds of the nodes right below holds of every node. -/
theorem Node.induction_below {motive : Node → Prop}
    (step : ∀ node : Node, (∀ inner ∈ node.below, motive inner) → motive node)
    (node : Node) :
    motive node :=
  step node fun inner _ => induction_below step inner
  termination_by sizeOf node
  decreasing_by
    rename_i mem
    exact Nat.lt_of_le_of_lt (sizeOf_le_stackSize mem) (stackSize_below_lt node)

/-- The family of a node is the node and the families of the nodes below it. -/
theorem Node.mem_family_iff (node inner : Node) :
    inner ∈ node.family ↔
      inner = node ∨ ∃ child ∈ node.below, inner ∈ child.family := by
  rw [family, List.mem_cons, ← flatMap_family_below, List.mem_flatMap]

/-- The nodes of a tree are the families of the nodes that it shows. -/
theorem mem_nodes_iff_family (tree : Json) (node : Node) :
    node ∈ nodes tree ↔ ∃ held, Shows tree held ∧ node ∈ held.family := by
  simp only [← flatMap_family_heldNodes, List.mem_flatMap, mem_heldNodes_iff]

/-- The family of a node has all that lies right below its members. -/
theorem Node.below_subset_family (node : Node) :
    ∀ inner ∈ node.family, ∀ child ∈ inner.below, child ∈ node.family := by
  induction node using Node.induction_below with
  | step node inductionHypothesis =>
    intro inner mem child under
    rw [mem_family_iff]
    rcases (node.mem_family_iff inner).mp mem with rfl | ⟨between, right, deeper⟩
    · exact Or.inr ⟨child, under, (child.mem_family_iff child).mpr (Or.inl rfl)⟩
    · exact Or.inr ⟨between, right, inductionHypothesis between right inner deeper child under⟩

/-- From a node that can be reached its whole family can. -/
theorem Reachable.family {tree : Json} {node : Node} (reached : Reachable tree node) :
    ∀ inner ∈ node.family, Reachable tree inner := by
  induction node using Node.induction_below with
  | step node inductionHypothesis =>
    intro inner mem
    rcases (node.mem_family_iff inner).mp mem with rfl | ⟨child, under, deeper⟩
    · exact reached
    · obtain ⟨key, value, member, shown⟩ := (mem_below_iff node child).mp under
      exact inductionHypothesis child under (reached.member member shown) inner deeper

/-- The nodes of a tree are exactly those that can be reached. -/
theorem mem_nodes_iff_reachable (tree : Json) (node : Node) :
    node ∈ nodes tree ↔ Reachable tree node := by
  constructor
  · intro mem
    obtain ⟨held, shown, inside⟩ := (mem_nodes_iff_family tree node).mp mem
    exact (Reachable.root shown).family node inside
  · intro reached
    induction reached with
    | root shown =>
      exact (mem_nodes_iff_family tree _).mpr
        ⟨_, shown, (Node.mem_family_iff _ _).mpr (Or.inl rfl)⟩
    | member reached mem shown inductionHypothesis =>
      obtain ⟨held, root, inside⟩ := (mem_nodes_iff_family tree _).mp inductionHypothesis
      have under := (mem_below_iff _ _).mpr ⟨_, _, mem, shown⟩
      exact (mem_nodes_iff_family tree _).mpr
        ⟨held, root, held.below_subset_family _ inside _ under⟩

end Reached

/-- A visit that collects nodes finds all of them in their order. -/
theorem visit_collect (tree : Json) :
    visit (fun seen node => seen ++ [node]) [] (heldNodes tree) = nodes tree := by
  rw [visit_eq_foldl, flatMap_family_heldNodes, List.foldl_append_eq_append, List.nil_append,
    ← List.flatMap_def]
  exact List.flatMap_singleton' (nodes tree)

section Covering

variable {target : SourceRange}

/-- The range of a node is what its position reads as. -/
theorem Node.range?_eq_some_iff (node : Node) (range : SourceRange) :
    node.range? = some range ↔
      ∃ text, node.member? "src" = some (.str text) ∧ SourceRange.parse text = .ok range := by
  have text?_eq_some_iff (value : Json) (text : String) :
      value.text? = some text ↔ value = .str text := by
    cases value <;> simp [Json.text?]
  have source : node.source? = some (.ok range) ↔
      ∃ text, node.member? "src" = some (.str text) ∧ SourceRange.parse text = .ok range := by
    simp only [source?, Option.map_eq_some_iff, Option.bind_eq_some_iff, text?_eq_some_iff]
    simp
  rw [← source, range?]
  split
  · rename_i found equal
    rw [equal]
    simp
  · rename_i other
    simp only [reduceCtorEq, false_iff]
    exact other range

/-- A node covers a target with the length of its range. -/
theorem Node.coverLength?_eq_some_iff_coversBy (node : Node) (length : UInt64) :
    node.coverLength? target = some length ↔
      ∃ range, node.CoversBy target range ∧ range.length = length := by
  rw [coverLength?_eq_some_iff]
  constructor
  · rintro ⟨range, ranged, covers, rfl⟩
    obtain ⟨text, src, spelled⟩ := (node.range?_eq_some_iff range).mp ranged
    exact ⟨range, ⟨text, src, spelled, covers⟩, rfl⟩
  · rintro ⟨range, ⟨text, src, spelled, covers⟩, rfl⟩
    exact ⟨range, (node.range?_eq_some_iff range).mpr ⟨text, src, spelled⟩, covers, rfl⟩

/-- A node does not cover a target exactly if no range of it does. -/
theorem Node.coverLength?_eq_none_iff_coversBy (node : Node) :
    node.coverLength? target = none ↔ ∀ range, ¬node.CoversBy target range := by
  rw [Option.eq_none_iff_forall_ne_some]
  constructor
  · intro apart range covers
    exact apart range.length
      ((node.coverLength?_eq_some_iff_coversBy range.length).mpr ⟨range, covers, rfl⟩)
  · intro apart length covered
    obtain ⟨range, covers, -⟩ := (node.coverLength?_eq_some_iff_coversBy length).mp covered
    exact apart range covers

/-- The first of the shortest covering nodes, by the ranges that their `src` spells. -/
theorem isFirstShortest_iff_coversBy (nodes : List Node) (node : Node) :
    IsFirstShortest target nodes node ↔
      ∃ (place : Nat) (range : SourceRange), nodes[place]? = some node ∧
        node.CoversBy target range ∧
        ∀ (position : Nat) (other : Node) (wide : SourceRange), nodes[position]? = some other →
          other.CoversBy target wide →
            range.length ≤ wide.length ∧ (position < place → range.length < wide.length) := by
  constructor
  · rintro ⟨place, length, found, covered, least⟩
    obtain ⟨range, covers, rfl⟩ := (node.coverLength?_eq_some_iff_coversBy length).mp covered
    refine ⟨place, range, found, covers, ?_⟩
    intro position other wide present otherCovers
    exact least position other wide.length present
      ((other.coverLength?_eq_some_iff_coversBy _).mpr ⟨wide, otherCovers, rfl⟩)
  · rintro ⟨place, range, found, covers, least⟩
    refine ⟨place, range.length, found,
      (node.coverLength?_eq_some_iff_coversBy _).mpr ⟨range, covers, rfl⟩, ?_⟩
    intro position other width present otherCovered
    obtain ⟨wide, otherCovers, rfl⟩ :=
      (other.coverLength?_eq_some_iff_coversBy width).mp otherCovered
    exact least position other wide present otherCovers

end Covering

/-- The search for a covering node, with nothing left out. The stack visits the nodes of the tree in
document order, each before those below it, and these are the ones that can be reached. A node is
returned exactly if it stands in that order before all other nodes that cover the target by a range
as short as its own, and no node covers the target by a shorter one. The search fails exactly if no
node that can be reached covers the target, and names the target then. A node that does not cover
the target, for want of a good `src` or otherwise, is never returned, but the nodes below it
count. -/
theorem smallestContaining_first_of_shortest (tree : Json) (target : SourceRange) :
    visit (fun seen node => seen ++ [node]) [] (heldNodes tree) = nodes tree ∧
    (∀ node, node ∈ nodes tree ↔ Reachable tree node) ∧
    (∀ node, smallestContaining tree target = .ok node ↔
      ∃ (place : Nat) (range : SourceRange), (nodes tree)[place]? = some node ∧
        node.CoversBy target range ∧
        ∀ (position : Nat) (other : Node) (wide : SourceRange),
          (nodes tree)[position]? = some other → other.CoversBy target wide →
            range.length ≤ wide.length ∧ (position < place → range.length < wide.length)) ∧
    (∀ error, smallestContaining tree target = .error error ↔
      (∀ node range, Reachable tree node → ¬node.CoversBy target range) ∧
        error = .noContainingNode target.offset target.length target.fileId) ∧
    (∀ node, (∀ range, ¬node.CoversBy target range) →
      smallestContaining tree target ≠ .ok node ∧
      ∀ key value inner range, Reachable tree node → (key, value) ∈ node.members →
        Shows value inner → inner.CoversBy target range →
          ∃ found least, smallestContaining tree target = .ok found ∧
            found.CoversBy target least ∧ least.length ≤ range.length) := by
  have located (node : Node) := (smallestContaining_eq_ok_iff tree target node).trans
    (isFirstShortest_iff_coversBy (nodes tree) node)
  have failed (error : LookupError) : smallestContaining tree target = .error error ↔
      (∀ node range, Reachable tree node → ¬node.CoversBy target range) ∧
        error = .noContainingNode target.offset target.length target.fileId := by
    rw [smallestContaining_eq_error_iff]
    simp only [mem_nodes_iff_reachable, Node.coverLength?_eq_none_iff_coversBy]
    constructor
    · rintro ⟨apart, named⟩
      exact ⟨fun node range reached => apart node reached range, named⟩
    · rintro ⟨apart, named⟩
      exact ⟨fun node reached range => apart node range reached, named⟩
  refine ⟨visit_collect tree, mem_nodes_iff_reachable tree, located, failed, ?_⟩
  intro node apart
  constructor
  · intro returned
    obtain ⟨place, range, -, covers, -⟩ := (located node).mp returned
    exact apart range covers
  · intro key value inner range reached mem shown covers
    have innerReached := reached.member mem shown
    cases outcome : smallestContaining tree target with
    | error error => exact absurd covers (((failed error).mp outcome).1 inner range innerReached)
    | ok found =>
      obtain ⟨place, least, -, foundCovers, minimal⟩ := (located found).mp outcome
      obtain ⟨position, present⟩ :=
        List.mem_iff_getElem?.mp ((mem_nodes_iff_reachable tree inner).mpr innerReached)
      exact ⟨found, least, rfl, foundCovers, (minimal position inner range present covers).1⟩

/-- A node without a good `src` is passed over, but the node below it is found; a shorter one in an
array inside an array is not reached. -/
theorem smallestContaining_first_of_shortest_passes_bad_src :
    let inner : Node := ⟨[("src", .str "2:10:0")]⟩
    let hidden : Node := ⟨[("src", .str "2:3:0")]⟩
    let outer : Node :=
      ⟨[("src", .str "0:40"), ("body", inner.toJson), ("rows", .arr [.arr [hidden.toJson]])]⟩
    let target : SourceRange := ⟨3, 1, 0⟩
    (∀ range, ¬outer.CoversBy target range) ∧ Reachable outer.toJson outer ∧
      ("body", inner.toJson) ∈ outer.members ∧ Shows inner.toJson inner ∧
      inner.CoversBy target ⟨2, 10, 0⟩ ∧
      smallestContaining outer.toJson target ≠ .ok outer ∧
      (∃ found least, smallestContaining outer.toJson target = .ok found ∧
        found.CoversBy target least ∧ least.length ≤ 10) ∧
      smallestContaining outer.toJson target = .ok inner := by
  intro inner hidden outer target
  have bad : ∀ range, ¬outer.CoversBy target range := by
    rintro range ⟨text, src, spelled, -⟩
    cases src
    cases spelled
  have reached : Reachable outer.toJson outer := .root (.object outer.members)
  have mem : ("body", inner.toJson) ∈ outer.members := by simp [outer]
  have shown : Shows inner.toJson inner := .object inner.members
  have covers : inner.CoversBy target ⟨2, 10, 0⟩ := ⟨"2:10:0", rfl, rfl, by decide⟩
  have found : smallestContaining outer.toJson target = .ok inner := by
    rw [smallestContaining, visit_eq_foldl, flatMap_family_heldNodes]
    rfl
  obtain ⟨-, -, -, -, passed⟩ := smallestContaining_first_of_shortest outer.toJson target
  obtain ⟨notReturned, searched⟩ := passed outer bad
  exact ⟨bad, reached, mem, shown, covers, notReturned,
    searched _ _ inner _ reached mem shown covers, found⟩

end SourceTrace.Ast

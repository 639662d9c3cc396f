import SourceTrace.Ast.Locate

/-!
# Visited nodes

`nodes` lists the nodes of a tree by plain recursion: in document order, each before the nodes below
it. The search with a stack visits exactly this list, as `visit_eq_foldl` shows, and what it keeps
is the first of the shortest covering nodes, by `smallestContaining_eq_ok_iff`.
-/

namespace SourceTrace.Ast

mutual

/-- The nodes of a value, each before the nodes below it. -/
def nodes : Json → List Node
  | .obj members => ⟨members⟩ :: memberNodes members
  | .arr items => itemNodes items
  | _ => []

/-- The nodes of the items of an array; arrays among them are not entered. -/
def itemNodes : List Json → List Node
  | [] => []
  | .obj members :: rest => ⟨members⟩ :: memberNodes members ++ itemNodes rest
  | _ :: rest => itemNodes rest

/-- The nodes of the members of an object. -/
def memberNodes : List (String × Json) → List Node
  | [] => []
  | (_, value) :: rest => nodes value ++ memberNodes rest

end

/-- A node and the nodes below it. -/
def Node.family (node : Node) : List Node :=
  node :: memberNodes node.members

/-- The families of the nodes among items are the nodes of the items. -/
theorem flatMap_family_items (items : List Json) :
    (items.filterMap Node.ofJson?).flatMap Node.family = itemNodes items := by
  induction items with
  | nil => simp [itemNodes]
  | cons item rest inductionHypothesis =>
    cases item <;>
      simp [List.filterMap_cons, Node.ofJson?, itemNodes, Node.family, inductionHypothesis]

/-- The nodes of a value are the families of the nodes that it holds. -/
theorem flatMap_family_heldNodes (value : Json) :
    (heldNodes value).flatMap Node.family = nodes value := by
  cases value with
  | obj members => simp [heldNodes, nodes, Node.family]
  | arr items => rw [heldNodes, nodes, flatMap_family_items]
  | _ => simp [heldNodes, nodes]

/-- The nodes below a node are the families of the nodes right below it. -/
theorem flatMap_family_below (node : Node) :
    node.below.flatMap Node.family = memberNodes node.members := by
  obtain ⟨members⟩ := node
  induction members with
  | nil => simp [Node.below, memberNodes]
  | cons member rest inductionHypothesis =>
    obtain ⟨key, value⟩ := member
    simp only [Node.below, List.flatMap_cons, List.flatMap_append] at inductionHypothesis ⊢
    rw [flatMap_family_heldNodes, inductionHypothesis, memberNodes]

/-- A stack is visited family by family. -/
theorem visit_eq_foldl {β : Type} (step : β → Node → β) (state : β) (stack : List Node) :
    visit step state stack = (stack.flatMap Node.family).foldl step state := by
  fun_induction visit step state stack with
  | case1 => rfl
  | case2 state node stack inductionHypothesis =>
    rw [inductionHypothesis, List.flatMap_append, flatMap_family_below, List.flatMap_cons,
      Node.family, List.cons_append, List.foldl_cons]

/-- The length of the range of a node, if that covers a target. -/
def Node.coverLength? (target : SourceRange) (node : Node) : Option UInt64 :=
  (node.range?.filter fun range => range.contains target).map SourceRange.length

/-- A node is the first of the shortest nodes in a list that cover a target. -/
def IsFirstShortest (target : SourceRange) (nodes : List Node) (node : Node) : Prop :=
  ∃ index length, nodes[index]? = some node ∧ node.coverLength? target = some length ∧
    ∀ (place : Nat) (other : Node) (width : UInt64), nodes[place]? = some other →
      other.coverLength? target = some width →
      length ≤ width ∧ (place < index → length < width)

/-- What the search keeps of the nodes seen so far: nothing if none covers the target, and the first
of the shortest otherwise. -/
def Keeps (target : SourceRange) (seen : List Node) : Option Candidate → Prop
  | none => ∀ node ∈ seen, node.coverLength? target = none
  | some (length, node) => node.coverLength? target = some length ∧
      IsFirstShortest target seen node

/-- There is one first of the shortest nodes. -/
theorem IsFirstShortest.unique {target : SourceRange} {nodes : List Node} {left right : Node}
    (first : IsFirstShortest target nodes left) (second : IsFirstShortest target nodes right) :
    left = right := by
  obtain ⟨leftIndex, leftLength, leftFound, leftCovers, leftLeast⟩ := first
  obtain ⟨rightIndex, rightLength, rightFound, rightCovers, rightLeast⟩ := second
  have leftBelow := leftLeast rightIndex right rightLength rightFound rightCovers
  have rightBelow := rightLeast leftIndex left leftLength leftFound leftCovers
  rcases Nat.lt_trichotomy leftIndex rightIndex with before | same | after
  · exact absurd (rightBelow.2 before) (UInt64.not_lt.mpr leftBelow.1)
  · rw [same, rightFound] at leftFound
    exact (Option.some.inj leftFound).symm
  · exact absurd (leftBelow.2 after) (UInt64.not_lt.mpr rightBelow.1)

/-- A node that does not cover the target changes nothing. -/
theorem closer_of_coverLength?_eq_none {target : SourceRange} {best : Option Candidate}
    {node : Node}
    (apart : node.coverLength? target = none) : closer target best node = best := by
  simp only [Node.coverLength?, Option.map_eq_none_iff, Option.filter_eq_none_iff] at apart
  rw [closer]
  split
  · rfl
  · rename_i range found
    simp [apart range found]

/-- A covering node replaces the candidate if it is shorter. -/
theorem closer_of_coverLength?_eq_some {target : SourceRange} {best : Option Candidate}
    {node : Node} {length : UInt64} (covers : node.coverLength? target = some length) :
    closer target best node =
      if best.all (fun candidate => length < candidate.1) then some (length, node) else best := by
  simp only [Node.coverLength?, Option.map_eq_some_iff, Option.filter_eq_some_iff] at covers
  obtain ⟨range, ⟨found, contains⟩, rfl⟩ := covers
  simp [closer, found, contains]

/-- A node of a longer list is one of the list or the new one. -/
theorem getElem?_append_singleton {seen : List Node} {node other : Node} {place : Nat}
    (found : (seen ++ [node])[place]? = some other) :
    seen[place]? = some other ∨ place = seen.length ∧ other = node := by
  rcases Nat.lt_or_ge place seen.length with inside | behind
  · rw [List.getElem?_append_left inside] at found
    exact Or.inl found
  · rw [List.getElem?_append_right behind] at found
    rw [List.getElem?_singleton] at found
    split at found
    · exact Or.inr ⟨by omega, (Option.some.inj found).symm⟩
    · cases found

/-- A node that is not shorter does not displace the first shortest one. -/
theorem IsFirstShortest.append_singleton {target : SourceRange} {seen : List Node}
    {kept node : Node} {length : UInt64} (first : IsFirstShortest target seen kept)
    (covers : kept.coverLength? target = some length)
    (longer : ∀ width, node.coverLength? target = some width → length ≤ width) :
    IsFirstShortest target (seen ++ [node]) kept := by
  obtain ⟨index, least, found, keptCovers, minimal⟩ := first
  obtain rfl : least = length := by
    rw [covers] at keptCovers
    exact (Option.some.inj keptCovers).symm
  have inside : index < seen.length := (List.getElem?_eq_some_iff.mp found).1
  refine ⟨index, least, by rw [List.getElem?_append_left inside, found], covers, ?_⟩
  intro place other width present otherCovers
  rcases getElem?_append_singleton present with earlier | ⟨rfl, rfl⟩
  · exact minimal place other width earlier otherCovers
  · exact ⟨longer width otherCovers, by omega⟩

/-- A node that is shorter than all covering nodes before it is the first shortest one. -/
theorem isFirstShortest_append_self {target : SourceRange} {seen : List Node} {node : Node}
    {length : UInt64} (covers : node.coverLength? target = some length)
    (shorter : ∀ other ∈ seen, ∀ width, other.coverLength? target = some width →
      length < width) :
    IsFirstShortest target (seen ++ [node]) node := by
  refine ⟨seen.length, length, List.getElem?_concat_length, covers, ?_⟩
  intro place other width present otherCovers
  rcases getElem?_append_singleton present with earlier | ⟨rfl, rfl⟩
  · have below := shorter other (List.mem_of_getElem? earlier) width otherCovers
    exact ⟨UInt64.le_of_lt below, fun _ => below⟩
  · rw [covers] at otherCovers
    cases otherCovers
    exact ⟨UInt64.le_refl _, fun before => absurd before (Nat.lt_irrefl _)⟩

/-- One visit keeps what the search has to keep. -/
theorem Keeps.closer {target : SourceRange} {seen : List Node} {best : Option Candidate}
    (keeps : Keeps target seen best) (node : Node) :
    Keeps target (seen ++ [node]) (Ast.closer target best node) := by
  cases covers : node.coverLength? target with
  | none =>
    rw [closer_of_coverLength?_eq_none covers]
    cases best with
    | none =>
      intro other mem
      rcases List.mem_append.mp mem with earlier | last
      · exact keeps other earlier
      · rw [List.mem_singleton.mp last, covers]
    | some candidate =>
      refine ⟨keeps.1, keeps.2.append_singleton keeps.1 ?_⟩
      intro width impossible
      rw [covers] at impossible
      cases impossible
  | some length =>
    rw [closer_of_coverLength?_eq_some covers]
    cases best with
    | none =>
      refine ⟨covers, isFirstShortest_append_self covers ?_⟩
      intro other mem width otherCovers
      rw [keeps other mem] at otherCovers
      cases otherCovers
    | some candidate =>
      obtain ⟨least, kept⟩ := candidate
      simp only [Option.all_some, decide_eq_true_eq]
      split
      · rename_i shorter
        refine ⟨covers, isFirstShortest_append_self covers ?_⟩
        intro other mem width otherCovers
        obtain ⟨index, smallest, -, keptCovers, minimal⟩ := keeps.2
        obtain ⟨place, found⟩ := List.mem_iff_getElem?.mp mem
        rw [keeps.1] at keptCovers
        cases keptCovers
        exact UInt64.lt_of_lt_of_le shorter (minimal place other width found otherCovers).1
      · rename_i notShorter
        refine ⟨keeps.1, keeps.2.append_singleton keeps.1 ?_⟩
        intro width otherCovers
        rw [covers] at otherCovers
        cases otherCovers
        exact UInt64.not_lt.mp notShorter

/-- The search keeps the first of the shortest covering nodes of all that it visits. -/
theorem Keeps.foldl_closer {target : SourceRange} {seen : List Node} {best : Option Candidate}
    (keeps : Keeps target seen best) (rest : List Node) :
    Keeps target (seen ++ rest) (rest.foldl (Ast.closer target) best) := by
  induction rest generalizing seen best with
  | nil => simpa using keeps
  | cons node rest inductionHypothesis =>
    rw [List.append_cons, List.foldl_cons]
    exact inductionHypothesis (keeps.closer node)

/-- What the search ends with. -/
theorem keeps_visit (tree : Json) (target : SourceRange) :
    Keeps target (nodes tree) (visit (closer target) none (heldNodes tree)) := by
  rw [visit_eq_foldl, flatMap_family_heldNodes]
  have start : Keeps target [] none := by
    intro node mem
    cases mem
  exact start.foldl_closer (nodes tree)

/-- The search finds a node exactly if it is the first of the shortest covering nodes. -/
theorem smallestContaining_eq_ok_iff (tree : Json) (target : SourceRange) (node : Node) :
    smallestContaining tree target = .ok node ↔ IsFirstShortest target (nodes tree) node := by
  have keeps := keeps_visit tree target
  rw [smallestContaining]
  split
  · rename_i length kept found
    rw [found] at keeps
    rw [Except.ok.injEq]
    constructor
    · rintro rfl
      exact keeps.2
    · exact keeps.2.unique
  · rename_i found
    rw [found] at keeps
    simp only [reduceCtorEq, false_iff]
    rintro ⟨index, length, present, covers, -⟩
    rw [keeps node (List.mem_of_getElem? present)] at covers
    cases covers

/-- The search fails exactly if no node covers the target, and then it names the target. -/
theorem smallestContaining_eq_error_iff (tree : Json) (target : SourceRange) (error : LookupError) :
    smallestContaining tree target = .error error ↔
      (∀ node ∈ nodes tree, node.coverLength? target = none) ∧
        error = .noContainingNode target.offset target.length target.fileId := by
  have keeps := keeps_visit tree target
  rw [smallestContaining]
  split
  · rename_i length kept found
    rw [found] at keeps
    obtain ⟨covers, index, width, present, -⟩ := keeps
    simp only [reduceCtorEq, false_iff, not_and]
    intro apart
    rw [apart kept (List.mem_of_getElem? present)] at covers
    cases covers
  · rename_i found
    rw [found] at keeps
    simp only [Except.error.injEq]
    constructor
    · rintro rfl
      exact ⟨keeps, rfl⟩
    · rintro ⟨-, rfl⟩
      rfl

end SourceTrace.Ast

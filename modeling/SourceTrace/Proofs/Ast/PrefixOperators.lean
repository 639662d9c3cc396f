import SourceTrace.Proofs.Ast.Attributes

/-!
# Chains of operators in front of their operand

An operator in front of its operand is written without a space, except for `delete`, and without
brackets, so in a chain of them two signs may grow together: `-` in front of `-x` reads as `--x`.
What is written for a chain is what is written for its `parts`, in which a decrement is two signs.
Chains in front of the same identifier have the same text just if they have the same parts, so no
other operators can be mistaken: `unparse_eq_iff_of_applies`. `unparse_two_signs` is a chain that
reads as another one.
-/

namespace SourceTrace.Ast

/-- An operator that stands in front of its operand. -/
inductive PrefixOperator where
  | minus | complement | not | increment | decrement | delete
  deriving DecidableEq, Repr

namespace PrefixOperator

/-- The name of an operator in a node. -/
def symbol : PrefixOperator → String
  | minus => "-"
  | complement => "~"
  | not => "!"
  | increment => "++"
  | decrement => "--"
  | delete => "delete"

/-- What is written in front of the operand. -/
def written (operator : PrefixOperator) : String :=
  if operator = delete then "delete " else operator.symbol

/-- What a written operator may be taken for, each operator as short as possible. -/
def parts : PrefixOperator → List PrefixOperator
  | decrement => [minus, minus]
  | operator => [operator]

variable {operator other : PrefixOperator} {operators others : List PrefixOperator}

/-- The text in front of the operand of a chain of operators, the outermost first. -/
def front (operators : List PrefixOperator) : String :=
  String.join (operators.map written)

/-- The first operator is written before the others. -/
theorem front_cons (operator : PrefixOperator) (operators : List PrefixOperator) :
    front (operator :: operators) = operator.written ++ front operators := by
  rw [front, List.map_cons, String.join_cons, front]

/-- Operators are written one behind the other. -/
theorem front_append (operators others : List PrefixOperator) :
    front (operators ++ others) = front operators ++ front others := by
  rw [front, List.map_append, String.join_append, front, front]

/-- An operator is written like its parts. -/
theorem front_parts (operator : PrefixOperator) : front operator.parts = operator.written := by
  cases operator <;> decide

/-- Parts of operators are written like the operators. -/
theorem front_flatMap_parts (operators : List PrefixOperator) :
    front (operators.flatMap parts) = front operators := by
  induction operators with
  | nil => rfl
  | cons operator operators inductionHypothesis =>
    rw [List.flatMap_cons, front_append, front_parts, inductionHypothesis, front_cons]

/-- A decrement is no part of an operator, for it is two signs itself. -/
theorem decrement_notMem_parts (operator : PrefixOperator) : decrement ∉ operator.parts := by
  cases operator <;> decide

/-- The operator that a first character begins, where decrements are left out. -/
def ofFirst : Option Char → PrefixOperator
  | some '-' => minus
  | some '~' => complement
  | some '!' => not
  | some '+' => increment
  | _ => delete

/-- All operators but the decrement are known by their first character. -/
theorem ofFirst_written (plain : decrement ≠ operator) :
    ofFirst operator.written.toList.head? = operator := by
  cases operator with
  | decrement => exact absurd rfl plain
  | _ => decide

/-- Every operator is written with a character. -/
theorem written_ne_empty (operator : PrefixOperator) : operator.written ≠ "" := by
  cases operator <;> decide

/-- Operators begin with the first character of the first of them. -/
theorem head?_front_cons (operator : PrefixOperator) (operators : List PrefixOperator) :
    (front (operator :: operators)).toList.head? = operator.written.toList.head? := by
  have nonempty : operator.written.toList ≠ [] := by
    simpa using operator.written_ne_empty
  obtain ⟨first, rest, begins⟩ := List.exists_cons_of_ne_nil nonempty
  rw [front_cons, String.toList_append, begins]
  rfl

/-- Operators are never written as nothing. -/
theorem front_cons_ne_front_nil (operator : PrefixOperator) (operators : List PrefixOperator) :
    front (operator :: operators) ≠ front [] := by
  have empty : front [] = "" := rfl
  rw [front_cons, empty, ne_eq, String.append_eq_empty_iff]
  exact fun both => operator.written_ne_empty both.1

/-- Chains without decrements are told by their texts. -/
theorem eq_of_front_eq (clear : decrement ∉ operators) (otherClear : decrement ∉ others)
    (same : front operators = front others) : operators = others := by
  induction operators generalizing others with
  | nil =>
    cases others with
    | nil => rfl
    | cons other others => exact absurd same.symm (front_cons_ne_front_nil other others)
  | cons operator operators inductionHypothesis =>
    cases others with
    | nil => exact absurd same (front_cons_ne_front_nil operator operators)
    | cons other others =>
      rw [List.mem_cons, not_or] at clear otherClear
      obtain rfl : operator = other := by
        rw [← ofFirst_written clear.1, ← head?_front_cons operator operators, same,
          head?_front_cons, ofFirst_written otherClear.1]
      rw [front_cons, front_cons, String.append_right_inj] at same
      rw [inductionHypothesis clear.2 otherClear.2 same]

/-- Chains are written the same just if they have the same parts. -/
theorem front_eq_iff :
    front operators = front others ↔ operators.flatMap parts = others.flatMap parts := by
  have clear (operators : List PrefixOperator) : decrement ∉ operators.flatMap parts := by
    simp [decrement_notMem_parts]
  rw [← front_flatMap_parts operators, ← front_flatMap_parts others]
  exact ⟨eq_of_front_eq (clear operators) (clear others), congrArg front⟩

/-- A chain without signs is told by its parts, since every sign among them belongs to a
decrement. -/
theorem eq_of_flatMap_parts_eq (clear : minus ∉ operators) (otherClear : minus ∉ others)
    (same : operators.flatMap parts = others.flatMap parts) : operators = others := by
  induction operators generalizing others with
  | nil =>
    cases others with
    | nil => rfl
    | cons other others => cases other <;> simp [parts] at same
  | cons operator operators inductionHypothesis =>
    cases others with
    | nil => cases operator <;> simp [parts] at same
    | cons other others =>
      rw [List.mem_cons, not_or] at clear otherClear
      have behind : operator = other ∧ operators.flatMap parts = others.flatMap parts := by
        cases operator <;> cases other <;> simp_all [parts]
      rw [behind.1, inductionHypothesis clear.2 otherClear.2 behind.2]

end PrefixOperator

namespace Node

/-- A node applies operators, the outermost first, to an identifier. -/
inductive Applies (name : String) : Node → List PrefixOperator → Prop where
  | identifier {node : Node} (tagged : node.tag? = some "Identifier")
      (named : node.text "name" = name) : Applies name node []
  | operation {node operand : Node} {operator : PrefixOperator} {operators : List PrefixOperator}
      (tagged : node.tag? = some "UnaryOperation") (inFront : node.flag? "prefix" = some true)
      (operated : node.text "operator" = operator.symbol)
      (child : node.child? "subExpression" = some operand)
      (inner : Applies name operand operators) :
      Applies name node (operator :: operators)

/-- The node that applies operators to an identifier and has no other attributes. -/
def chain (name : String) : List PrefixOperator → Node
  | [] => ⟨[("nodeType", .str "Identifier"), ("name", .str name)]⟩
  | operator :: operators =>
    ⟨[("nodeType", .str "UnaryOperation"), ("operator", .str operator.symbol),
      ("prefix", .bool true), ("subExpression", (chain name operators).toJson)]⟩

/-- Every chain of operators has a node. -/
theorem applies_chain (name : String) (operators : List PrefixOperator) :
    Applies name (chain name operators) operators := by
  induction operators with
  | nil => exact .identifier rfl rfl
  | cons operator operators inductionHypothesis =>
    exact .operation rfl rfl rfl rfl inductionHypothesis

/-- A chain of operators is written in front of the name that it ends with. -/
theorem Applies.unparse_eq {name : String} {node : Node} {operators : List PrefixOperator}
    (applies : Applies name node operators) :
    node.unparse = PrefixOperator.front operators ++ name := by
  induction applies with
  | identifier tagged named =>
    rw [unparse_of_tag? tagged, ← named, ← text_rendered]
    exact String.empty_append.symm
  | @operation node operand operator operators tagged inFront operated child _
      inductionHypothesis =>
    rw [unparse_of_tag? tagged, PrefixOperator.front_cons, String.append_assoc,
      ← inductionHypothesis]
    change Render.unaryOperation node.rendered = _
    rw [Render.unaryOperation, flag?_rendered, inFront, text_rendered, operated,
      code_rendered_of_child? child]
    cases operator <;> rfl

end Node

/-- Chains of operators in front of the same identifier have the same text just if they are the same
when each decrement is taken for two signs. Chains without decrements, and chains without signs, can
be read back. -/
theorem unparse_eq_iff_of_applies {first second : Node} {name : String}
    {operators others : List PrefixOperator} (applies : first.Applies name operators)
    (otherApplies : second.Applies name others) :
    (first.unparse = second.unparse ↔
      operators.flatMap PrefixOperator.parts = others.flatMap PrefixOperator.parts) ∧
    (.decrement ∉ operators ++ others ∨ .minus ∉ operators ++ others →
      first.unparse = second.unparse → operators = others) := by
  have fronts : first.unparse = second.unparse ↔
      PrefixOperator.front operators = PrefixOperator.front others := by
    rw [applies.unparse_eq, otherApplies.unparse_eq, String.append_left_inj]
  refine ⟨fronts.trans PrefixOperator.front_eq_iff, fun clear same => ?_⟩
  simp only [List.mem_append, not_or] at clear
  rcases clear with ⟨clear, otherClear⟩ | ⟨clear, otherClear⟩
  · exact PrefixOperator.eq_of_front_eq clear otherClear (fronts.mp same)
  · exact PrefixOperator.eq_of_flatMap_parts_eq clear otherClear
      (PrefixOperator.front_eq_iff.mp (fronts.mp same))

/-- A sign and an increment are not mistaken for one another, in whatever order they come. -/
theorem unparse_eq_iff_of_applies_sign_and_increment :
    (Node.chain "x" [.minus, .increment, .delete]).unparse ≠
      (Node.chain "x" [.increment, .minus, .delete]).unparse := by
  intro same
  have read := (unparse_eq_iff_of_applies (Node.applies_chain "x" [.minus, .increment, .delete])
    (Node.applies_chain "x" [.increment, .minus, .delete])).2 (.inl (by decide)) same
  exact absurd read (by decide)

/-- Two signs are written like a decrement. -/
theorem unparse_two_signs :
    ([.minus, .minus] : List PrefixOperator) ≠ [.decrement] ∧
      (Node.chain "x" [.minus, .minus]).unparse = "--x" ∧
      (Node.chain "x" [.decrement]).unparse = "--x" := by
  decide

end SourceTrace.Ast

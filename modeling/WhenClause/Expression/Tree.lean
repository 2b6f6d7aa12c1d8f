/-
**Expressions as trees.**

A list of operands makes a `Node`: a constant if it is empty, its only operand by itself, or a
compound node. `Terms` has no room for a compound node of fewer than two terms. The node of a clause
is `true`, a literal or a conjunction; the node of an expression is `false`, a clause or a
disjunction.

* `expression_tree`, `tree_expression`: an expression and its tree determine each other;
* `isNever_iff_tree`, `isAlways_iff_tree`, `isLiteral_iff_tree`: the kinds of expressions that are not
  compound;
* `map_tree_alternatives`, `map_tree_conjuncts`: the parts of an expression are the terms of its tree;
* `beq_eq_equal_tree`: equality compares trees, and pairs off the terms of compound nodes.
-/

import WhenClause.Expression.Basic

namespace WhenClause

/-! ### Nodes -/

section Nodes

variable {α β : Type}

/-- The terms of a compound node, at least two. -/
structure Terms (α : Type) where
  list : List α
  several : 2 ≤ list.length

/-- What operands make, by their number. -/
inductive Node (α : Type) where
  | constant
  | only (operand : α)
  | compound (terms : Terms α)

namespace Node

/-- The node of a list of operands. -/
def ofList : List α → Node α
  | [] => constant
  | [operand] => only operand
  | first :: second :: rest => compound ⟨first :: second :: rest, Nat.le_add_left 2 rest.length⟩

/-- The operands of a node. -/
def operands : Node α → List α
  | constant => []
  | only operand => [operand]
  | compound terms => terms.list

@[simp] theorem operands_ofList (list : List α) : (ofList list).operands = list := by
  rcases list with _ | ⟨first, _ | ⟨second, rest⟩⟩ <;> rfl

@[simp] theorem ofList_operands (node : Node α) : ofList node.operands = node := by
  rcases node with _ | _ | ⟨_ | ⟨first, _ | ⟨second, rest⟩⟩, several⟩
  case compound.nil => cases several
  case compound.cons.nil => exact absurd several (Nat.not_le.mpr Nat.one_lt_two)
  all_goals rfl

/-- Several operands make a compound node, and no others do. -/
theorem two_le_length_operands_iff (node : Node α) :
    2 ≤ node.operands.length ↔ ∃ terms, node = compound terms := by
  constructor
  · intro several
    cases node with
    | constant => cases several
    | only operand => exact absurd several (Nat.not_le.mpr Nat.one_lt_two)
    | compound terms => exact ⟨terms, rfl⟩
  · rintro ⟨terms, rfl⟩
    exact terms.several

/-- Whether two nodes are the same, up to the order of the terms of compound ones. -/
def equal (same : α → α → Bool) : Node α → Node α → Bool
  | constant, constant => true
  | only operand, only operand' => same operand operand'
  | compound terms, compound terms' => sameMembers same terms.list terms'.list
  | _, _ => false

end Node

/-- Only lists of one length pair off. -/
theorem length_eq_of_sameMembers {same : α → α → Bool} {members others : List α}
    (matched : sameMembers same members others = true) : members.length = others.length := by
  induction members generalizing others with
  | nil =>
    rw [sameMembers, List.isEmpty_iff] at matched
    rw [matched]
  | cons member members ih =>
    rw [sameMembers, Bool.and_eq_true, List.any_eq_true] at matched
    obtain ⟨⟨partner, inside, pair⟩, rest⟩ := matched
    have shorter := ih rest
    rw [List.length_eraseP_of_mem inside pair] at shorter
    have filled := List.length_pos_of_mem inside
    rw [List.length_cons]
    omega

/-- **Nodes are the same exactly if their operands pair off.** -/
theorem Node.equal_eq_sameMembers (same : α → α → Bool) (node node' : Node α) :
    node.equal same node' = sameMembers same node.operands node'.operands := by
  have unlike : node.operands.length ≠ node'.operands.length →
      sameMembers same node.operands node'.operands = false := fun unlike =>
    Bool.eq_false_iff.mpr fun matched => unlike (length_eq_of_sameMembers matched)
  rcases node with _ | operand | ⟨terms, several⟩ <;>
    rcases node' with _ | operand' | ⟨terms', several'⟩
  case constant.constant => rfl
  case compound.compound => rfl
  case only.only =>
    cases alike : same operand operand' <;> simp [equal, operands, sameMembers, alike]
  -- the others differ in the number of their operands
  all_goals
    refine (unlike ?_).symm
    simp only [operands, List.length_nil, List.length_singleton]
    omega

theorem sameMembers_map (same : β → β → Bool) (f : α → β) (members others : List α) :
    sameMembers same (members.map f) (others.map f) =
      sameMembers (fun member other => same (f member) (f other)) members others := by
  induction members generalizing others with
  | nil => simp [sameMembers]
  | cons member members ih =>
    rw [List.map_cons, sameMembers, sameMembers, List.any_map, List.eraseP_map, ih]
    rfl

end Nodes

section Engine

variable [PatternEngine]

/-! ### Trees -/

/-- A clause as a node: `true`, a literal, or a conjunction of literals. -/
abbrev ClauseNode := Node Literal

/-- An expression as a node: `false`, a clause, or a disjunction of clauses. -/
abbrev Tree := Node ClauseNode

/-- The tree of an expression. -/
def Expression.tree (expression : Expression) : Tree :=
  .ofList (expression.clauses.map Node.ofList)

/-- The expression with a given tree. -/
def Tree.expression (tree : Tree) : Expression := ⟨tree.operands.map Node.operands⟩

@[simp] theorem Expression.operands_tree (expression : Expression) :
    expression.tree.operands = expression.clauses.map Node.ofList :=
  Node.operands_ofList _

theorem Expression.expression_tree (expression : Expression) :
    Tree.expression expression.tree = expression := by
  rw [Tree.expression, operands_tree, List.map_map]
  exact congrArg Expression.mk (List.map_id'' Node.operands_ofList _)

theorem Tree.tree_expression (tree : Tree) : (Tree.expression tree).tree = tree := by
  rw [Expression.tree, expression, List.map_map, Function.comp_def,
    List.map_id'' Node.ofList_operands, Node.ofList_operands]

/-! ### Kinds of expressions -/

theorem Expression.isNever_iff_tree (expression : Expression) :
    expression.isNever = true ↔ expression.tree = .constant := by
  obtain ⟨_ | ⟨first, _ | ⟨second, rest⟩⟩⟩ := expression <;> simp [isNever, tree, Node.ofList]

theorem Expression.isAlways_iff_tree (expression : Expression) :
    expression.isAlways = true ↔ expression.tree = .only .constant := by
  obtain ⟨_ | ⟨_ | ⟨literal, _ | ⟨second, literals⟩⟩, _ | ⟨clause, clauses⟩⟩⟩ := expression <;>
    simp [isAlways, tree, Node.ofList]

theorem Expression.isLiteral_iff_tree (expression : Expression) :
    expression.isLiteral = true ↔ ∃ literal, expression.tree = .only (.only literal) := by
  obtain ⟨_ | ⟨_ | ⟨literal, _ | ⟨second, literals⟩⟩, _ | ⟨clause, clauses⟩⟩⟩ := expression <;>
    simp [isLiteral, tree, Node.ofList]

/-! ### Parts -/

/-- The terms of a disjunction; any other tree is its only one. -/
def Tree.alternatives : Tree → List Tree
  | .compound clauses => clauses.list.map .only
  | tree => [tree]

/-- The terms of a conjunction; any other tree is its only one. -/
def Tree.conjuncts : Tree → List Tree
  | .only (.compound literals) => literals.list.map fun literal => .only (.only literal)
  | tree => [tree]

/-- **The clauses of an expression are the terms of its tree.** -/
theorem map_tree_alternatives (expression : Expression) :
    expression.alternatives.map Expression.tree = Tree.alternatives expression.tree := by
  obtain ⟨_ | ⟨first, _ | ⟨second, rest⟩⟩⟩ := expression
  · rfl
  · rfl
  · simp [Expression.alternatives, Expression.isNever, Expression.tree, Expression.ofClause,
      Tree.alternatives, Node.ofList, Function.comp_def]

/-- **The literals of an only clause are the terms of its tree.** -/
theorem map_tree_conjuncts (expression : Expression) :
    expression.conjuncts.map Expression.tree = Tree.conjuncts expression.tree := by
  obtain ⟨_ | ⟨_ | ⟨first, _ | ⟨second, rest⟩⟩, _ | ⟨clause, clauses⟩⟩⟩ := expression
  case cons.cons.cons.nil =>
    simp [Expression.conjuncts, Expression.tree, Expression.single, Expression.ofClause,
      Tree.conjuncts, Node.ofList, Function.comp_def]
  all_goals rfl

/-! ### Equality -/

/-- **Equality compares trees.** -/
theorem beq_eq_equal_tree (left right : Expression) :
    (left == right) = left.tree.equal (Node.equal (· == ·)) right.tree := by
  rw [Node.equal_eq_sameMembers, Expression.operands_tree, Expression.operands_tree,
    sameMembers_map]
  simp only [Node.equal_eq_sameMembers, Node.operands_ofList]
  rfl

end Engine

end WhenClause

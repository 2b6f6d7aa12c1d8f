/-
**The trees of built expressions.**

Conjunctions and disjunctions have at least two terms, whatever clauses an expression lists. If it is
built, the terms are different, too, and no term of a disjunction is a constant.

* `Expression.equivTree`: lists of clauses and trees are the same;
* `isConjunction_iff_tree`, `isDisjunction_iff_tree`: compound nodes are conjunctions and disjunctions
  of at least two terms;
* `Built.reduced_tree`: operations build reduced trees, with NaN or without.
-/

import Mathlib.Logic.Equiv.Defs
import WhenClause.Expression.Tree
import WhenClause.Proofs.Pairing
import WhenClause.Proofs.PrimeImplicant

namespace WhenClause

open Expression

variable [PatternEngine]
variable {known : Facts → Prop} {expression : Expression}

/-- **Expressions are trees.** Compound nodes of these, conjunctions of literals and disjunctions of
clauses, have at least two terms. -/
def Expression.equivTree : Expression ≃ Tree where
  toFun := tree
  invFun := Tree.expression
  left_inv := expression_tree
  right_inv := Tree.tree_expression

/-! ### Compound nodes -/

/-- The tree is a conjunction exactly if the expression is one of at least two literals. -/
theorem Expression.isConjunction_iff_tree :
    expression.IsConjunction ↔ ∃ literals, expression.tree = .only (.compound literals) := by
  constructor
  · rintro ⟨clause, rfl, many⟩
    rw [← Node.operands_ofList clause, Node.two_le_length_operands_iff] at many
    exact many.imp fun literals same => congrArg Node.only same
  · rintro ⟨literals, same⟩
    refine ⟨literals.list, ?_, literals.several⟩
    rw [← expression_tree expression, same]
    rfl

/-- The tree is a disjunction exactly if the expression is one of at least two clauses. -/
theorem Expression.isDisjunction_iff_tree :
    expression.IsDisjunction ↔ ∃ clauses, expression.tree = .compound clauses := by
  rw [← Node.two_le_length_operands_iff, operands_tree, List.length_map]
  rfl

/-! ### Reduced trees -/

/-- **Reduced trees.** The terms of each compound node differ from one another, and no term of a
disjunction is a constant. -/
structure Tree.Reduced (tree : Tree) : Prop where
  literals : ∀ clause ∈ tree.operands,
    clause.operands.Pairwise fun literal other => (literal == other) = false
  clauses : tree.operands.Pairwise fun clause other => clause.equal (· == ·) other = false
  constant : ∀ terms, tree = .compound terms → .constant ∉ terms.list

theorem Expression.Formed.reduced_tree (formed : expression.Formed) :
    Tree.Reduced expression.tree where
  literals := by
    rw [operands_tree, List.forall_mem_map]
    intro clause inside
    rw [Node.operands_ofList]
    exact (formed.consistent clause inside).distinct
  clauses := by
    rw [operands_tree, List.pairwise_map]
    refine formed.apart.imp_of_mem fun {clause other} inside inside' apart => ?_
    rw [Node.equal_eq_sameMembers, Node.operands_ofList, Node.operands_ofList, Bool.eq_false_iff]
    intro matched
    have same := (sameMembers_iff_same (formed.consistent clause inside)
      (formed.consistent other inside')).mp matched
    rw [same.1] at apart
    cases apart.1
  constant := by
    intro terms compound among
    have listed : terms.list = expression.clauses.map Node.ofList := by
      rw [← operands_tree, compound]
      rfl
    rw [listed] at among
    obtain ⟨clause, inside, empty⟩ := List.mem_map.mp among
    -- an empty clause stands by itself, and not among the terms of a disjunction
    obtain rfl : clause = [] := by rw [← Node.operands_ofList clause, empty]; rfl
    rw [formed.eq_always inside] at compound
    cases compound

/-- **Operations build reduced trees.** -/
theorem Expression.Built.reduced_tree (built : Built known expression) :
    Tree.Reduced expression.tree :=
  built.formed.reduced_tree

end WhenClause

/-
**Laws of negation.**

Under fixed facts the negation has the opposite of the dual value (`value_negate`), and the dual of
the dual is the assignment itself. So laws of negation that are true of truth values are laws of
canonical forms, which are equal as soon as they have one value. Comparisons are no exception: a
comparison and its opposite are two atoms, and the dual exchanges them.

* `negate_negate_beq`: two negations of an expression give it back;
* `value_disj_map_negate`, `value_conj_map_negate`: the laws of De Morgan under assignments;
* `negate_joins`: the negation of a join is the other join of the negations.
-/

import WhenClause.Proofs.Equivalence
import WhenClause.Proofs.Negation
import WhenClause.Regex.Engine

namespace WhenClause

open Expression

/-! ### Two negations -/

section Negations

variable [PatternEngine] {facts : Facts} {expression : Expression}

/-- **Two negations of an expression give it back.** Both of them end. -/
theorem negate_negate_beq (built : Built (· = facts) expression) (nanFree : expression.NaNFree) :
    expression.NegationEnds ∧ (expression.negate facts).NegationEnds ∧
      ((expression.negate facts).negate facts == expression) = true := by
  have nanFree' : (expression.negate facts).NaNFree := kept_nanFree.negate trivial nanFree
  have built' : Built (· = facts) ((expression.negate facts).negate facts) :=
    .negate rfl (.negate rfl built)
  refine ⟨negationEnds nanFree, negationEnds nanFree', ?_⟩
  exact beq_of_value_eq built'.formed built.formed (kept_nanFree.negate trivial nanFree') nanFree
    fun assignment => negate_negate_value assignment built.free nanFree

end Negations

/-- On a Mac two negations give back `a && n < 1 || n >= 1`. -/
theorem negate_negate_bounded_key :
    (((disj [conj [has (some .mac) "a", compared "n" .less (.number Double.one)],
        compared "n" .atLeast (.number Double.one)]).negate (some .mac)).negate (some .mac) ==
      disj [conj [has (some .mac) "a", compared "n" .less (.number Double.one)],
        compared "n" .atLeast (.number Double.one)]) = true := by
  have bounded : ∀ comparison,
      Built (· = some Platform.mac) (compared "n" comparison (.number Double.one)) :=
    fun comparison => @Built.compared _ (· = some Platform.mac) _ rfl _ _ _
  have both : ∀ operand ∈ [has (some .mac) "a", compared "n" .less (.number Double.one)],
      Built (· = some Platform.mac) operand :=
    List.forall_mem_cons.mpr ⟨@Built.ofTest _ (· = some Platform.mac) _ rfl _ _,
      List.forall_mem_singleton.mpr (bounded .less)⟩
  have built : ∀ operand ∈ [conj [has (some .mac) "a", compared "n" .less (.number Double.one)],
      compared "n" .atLeast (.number Double.one)], Built (· = some Platform.mac) operand :=
    List.forall_mem_cons.mpr ⟨Built.conj both, List.forall_mem_singleton.mpr (bounded .atLeast)⟩
  have nanFree : ∀ operand ∈ [conj [has (some .mac) "a", compared "n" .less (.number Double.one)],
      compared "n" .atLeast (.number Double.one)], operand.NaNFree :=
    List.forall_mem_cons.mpr ⟨kept_nanFree.conj (by decide), by decide⟩
  exact (negate_negate_beq (Built.disj built) (kept_nanFree.disj nanFree)).2.2

/-! ### Negations of joins -/

section Joins

variable [PatternEngine] {facts : Facts} {operands : List Expression}

theorem built_map_negate (built : ∀ operand ∈ operands, Built (· = facts) operand) :
    ∀ operand ∈ operands.map (·.negate facts), Built (· = facts) operand :=
  List.forall_mem_map.mpr fun operand among => .negate rfl (built operand among)

theorem nanFree_map_negate (nanFree : ∀ operand ∈ operands, operand.NaNFree) :
    ∀ operand ∈ operands.map (·.negate facts), operand.NaNFree :=
  List.forall_mem_map.mpr fun operand among => kept_nanFree.negate trivial (nanFree operand among)

/-- The disjunction of the negations has the opposite of the dual value of the conjunction. -/
theorem value_disj_map_negate (built : ∀ operand ∈ operands, Built (· = facts) operand)
    (nanFree : ∀ operand ∈ operands, operand.NaNFree) (assignment : Assignment) :
    (disj (operands.map (·.negate facts))).value assignment =
      !(conj operands).value assignment.dual := by
  have consistent : ∀ operand ∈ operands.map (·.negate facts),
      ∀ clause ∈ operand.clauses, clause.Consistent :=
    fun operand among => (built_map_negate built operand among).formed.consistent
  rw [value_disj assignment consistent (nanFree_map_negate nanFree), value_conj _ nanFree,
    List.any_map, List.not_all_eq_any_not]
  exact any_congr_of_mem fun operand among =>
    value_negate assignment (built operand among).free (nanFree operand among)

/-- The conjunction of the negations has the opposite of the dual value of the disjunction. -/
theorem value_conj_map_negate (built : ∀ operand ∈ operands, Built (· = facts) operand)
    (nanFree : ∀ operand ∈ operands, operand.NaNFree) (assignment : Assignment) :
    (conj (operands.map (·.negate facts))).value assignment =
      !(disj operands).value assignment.dual := by
  have consistent : ∀ operand ∈ operands, ∀ clause ∈ operand.clauses, clause.Consistent :=
    fun operand among => (built operand among).formed.consistent
  rw [value_conj assignment (nanFree_map_negate nanFree), value_disj _ consistent nanFree,
    List.all_map, List.not_any_eq_all_not]
  exact all_congr_of_mem fun operand among =>
    value_negate assignment (built operand among).free (nanFree operand among)

/-- The joins of some expressions and of their negations return, and the negations of all of these
end. -/
structure NegatedJoinsEnd (facts : Facts) (operands : List Expression) : Prop where
  conj : ConjReturns operands (conj operands)
  disj : DisjReturns operands (disj operands)
  negateConj : (Expression.conj operands).NegationEnds
  negateDisj : (Expression.disj operands).NegationEnds
  each : ∀ operand ∈ operands, operand.NegationEnds
  conjNegations : ConjReturns (operands.map (·.negate facts))
    (Expression.conj (operands.map (·.negate facts)))
  disjNegations : DisjReturns (operands.map (·.negate facts))
    (Expression.disj (operands.map (·.negate facts)))

theorem negatedJoinsEnd (nanFree : ∀ operand ∈ operands, operand.NaNFree) :
    NegatedJoinsEnd facts operands where
  conj := conjReturns_conj nanFree
  disj := disjReturns_disj nanFree
  negateConj := negationEnds (kept_nanFree.conj nanFree)
  negateDisj := negationEnds (kept_nanFree.disj nanFree)
  each operand among := negationEnds (nanFree operand among)
  conjNegations := conjReturns_conj (nanFree_map_negate nanFree)
  disjNegations := disjReturns_disj (nanFree_map_negate nanFree)

/-- **The negation of a join is the other join of the negations.** Whatever the two sides join and
negate for that ends. -/
theorem negate_joins (built : ∀ operand ∈ operands, Built (· = facts) operand)
    (nanFree : ∀ operand ∈ operands, operand.NaNFree) :
    NegatedJoinsEnd facts operands ∧
      ((conj operands).negate facts == disj (operands.map (·.negate facts))) = true ∧
      ((disj operands).negate facts == conj (operands.map (·.negate facts))) = true := by
  have built' := built_map_negate built
  have nanFree' : ∀ operand ∈ operands.map (·.negate facts), operand.NaNFree :=
    nanFree_map_negate nanFree
  have conjFree : (conj operands).NaNFree := kept_nanFree.conj nanFree
  have disjFree : (disj operands).NaNFree := kept_nanFree.disj nanFree
  have negateConj : Built (· = facts) ((conj operands).negate facts) := .negate rfl (.conj built)
  have negateDisj : Built (· = facts) ((disj operands).negate facts) := .negate rfl (.disj built)
  refine ⟨negatedJoinsEnd nanFree, ?_, ?_⟩
  · refine beq_of_value_eq negateConj.formed (Built.disj built').formed
      (kept_nanFree.negate trivial conjFree) (kept_nanFree.disj nanFree') fun assignment => ?_
    rw [value_negate assignment (Built.conj built).free conjFree,
      value_disj_map_negate built nanFree]
  · refine beq_of_value_eq negateDisj.formed (Built.conj built').formed
      (kept_nanFree.negate trivial disjFree) (kept_nanFree.conj nanFree') fun assignment => ?_
    rw [value_negate assignment (Built.disj built).free disjFree,
      value_conj_map_negate built nanFree]

end Joins

/-- On Linux the negation of `a && n < 1` is `!a || n >= 1`, and that of `a || n < 1` is
`!a && n >= 1`. -/
theorem negate_joins_bounded_key :
    NegatedJoinsEnd (some .linux) [has (some .linux) "a", compared "n" .less (.number Double.one)] ∧
      ((conj [has (some .linux) "a", compared "n" .less (.number Double.one)]).negate (some .linux)
        == disj [lacks (some .linux) "a", compared "n" .atLeast (.number Double.one)]) = true ∧
      ((disj [has (some .linux) "a", compared "n" .less (.number Double.one)]).negate (some .linux)
        == conj [lacks (some .linux) "a", compared "n" .atLeast (.number Double.one)]) = true := by
  have built : ∀ operand ∈ [has (some .linux) "a", compared "n" .less (.number Double.one)],
      Built (· = some Platform.linux) operand :=
    List.forall_mem_cons.mpr ⟨@Built.ofTest _ (· = some Platform.linux) _ rfl _ _,
      List.forall_mem_singleton.mpr (@Built.compared _ (· = some Platform.linux) _ rfl _ _ _)⟩
  exact negate_joins built (by decide)

end WhenClause

/-
**What a negation means.**

A negation turns every literal around. A test turned around is its complement, but a comparison
turned around is another comparison, with a truth value of its own. So under an assignment the
negation is the complement of what the expression is under the `dual` assignment, in which a
comparison holds where the opposite one fails.

* `value_negateWithin`: what negation does to the values of literals it does to the expression;
* `value_negate`: so its value is the opposite of the dual value;
* `negate_negate_value`: two negations cancel, since the dual of the dual is the assignment itself;
* `value_dual_of_comparisonFree`: without comparisons the dual value is the value;
* `evaluate_negate`: where comparisons are between numbers, contexts are their own duals, so there a
  negation evaluates to the complement.
-/

import WhenClause.Proofs.FreeLiteral
import WhenClause.Proofs.Rounds
import WhenClause.Regex.Engine

namespace WhenClause

open Expression

/-! ### Members of lists -/

theorem any_congr_of_mem {α : Type} {list : List α} {p q : α → Bool}
    (same : ∀ member ∈ list, p member = q member) : list.any p = list.any q := by
  rw [Bool.eq_iff_iff, List.any_eq_true, List.any_eq_true]
  exact exists_congr fun member => and_congr_right fun inside => by rw [same member inside]

theorem all_congr_of_mem {α : Type} {list : List α} {p q : α → Bool}
    (same : ∀ member ∈ list, p member = q member) : list.all p = list.all q := by
  rw [Bool.eq_iff_iff, List.all_eq_true, List.all_eq_true]
  exact forall₂_congr fun member inside => by rw [same member inside]

/-- Clauses whose literals have the same values are a disjunction of the same value. -/
theorem any_all_congr_of_mem {α : Type} {clauses : List (List α)} {p q : α → Bool}
    (same : ∀ clause ∈ clauses, ∀ member ∈ clause, p member = q member) :
    clauses.any (fun clause => clause.all p) = clauses.any fun clause => clause.all q :=
  any_congr_of_mem fun clause inside => all_congr_of_mem (same clause inside)

theorem forall_mem_pair {α : Type} {p : α → Prop} {first second : α} (holds : p first)
    (holds' : p second) : ∀ member ∈ [first, second], p member :=
  List.forall_mem_cons.mpr ⟨holds, List.forall_mem_singleton.mpr holds'⟩

/-! ### Opposite comparisons -/

/-- Of two numbers, none of them NaN, exactly one of two opposite comparisons holds. -/
theorem Comparison.holds_opposite (comparison : Comparison) {left right : Double}
    (first : left.isNaN = false) (second : right.isNaN = false) :
    comparison.opposite.holds left right = !comparison.holds left right := by
  cases comparison <;>
    simp [opposite, holds, Double.less, Double.atMost, first, second, ← decide_not]

theorem Double.isNaN_of_isFinite {number : Double} (finite : number.isFinite = true) :
    number.isNaN = false := by
  simp only [isFinite, decide_eq_true_eq] at finite
  simp only [isNaN, decide_eq_false_iff_not]
  omega

/-- What a key has in a context and the bound are both read as finite numbers. -/
def ComparesNumbers (context : Context) (key : String) (bound : Value) : Prop :=
  ∃ left right, (context key).bind Json.number? = some left ∧ left.isFinite = true ∧
    bound.number? = some right ∧ right.isFinite = true

/-- Between finite numbers exactly one of two opposite comparisons holds. -/
theorem compares_opposite {context : Context} {key : String} {bound : Value}
    (numbers : ComparesNumbers context key bound) (comparison : Comparison) :
    compares (context key) comparison.opposite bound =
      !compares (context key) comparison bound := by
  obtain ⟨left, right, found, finite, found', finite'⟩ := numbers
  simp only [compares, found, found']
  exact comparison.holds_opposite (Double.isNaN_of_isFinite finite)
    (Double.isNaN_of_isFinite finite')

section Engine

variable [PatternEngine]
variable {facts : Facts} {expression result : Expression} {clause : Clause} {literal : Literal}
  {context : Context} {limit limit' : Nat}

/-! ### Dual assignments -/

/-- The assignment with every comparison replaced by the failure of the opposite one. -/
def Assignment.dual (assignment : Assignment) : Assignment where
  answer := assignment.answer
  compare key comparison bound := !assignment.compare key comparison.opposite bound
  answer_congr := assignment.answer_congr
  compare_congr key comparison _ _ same :=
    congrArg (fun holds => !holds) (assignment.compare_congr key comparison.opposite same)

@[simp] theorem Assignment.dual_dual (assignment : Assignment) :
    assignment.dual.dual = assignment := by
  obtain ⟨answer, compare, answer_congr, compare_congr⟩ := assignment
  have same : (fun key (comparison : Comparison) bound =>
      !!compare key comparison.opposite.opposite bound) = compare := by
    funext key comparison bound
    rw [Comparison.opposite_opposite, Bool.not_not]
  simp only [dual, same]

/-- **A literal turned around has the opposite of its dual value.** -/
theorem Literal.value_opposite (assignment : Assignment) (literal : Literal) :
    literal.opposite.value assignment = !literal.value assignment.dual := by
  cases literal with
  | test question holds =>
    show (assignment.answer question == !holds) = !(assignment.answer question == holds)
    cases assignment.answer question <;> cases holds <;> rfl
  | ordered key comparison bound =>
    show assignment.compare key comparison.opposite bound = !!_
    rw [Bool.not_not]

/-! ### Negations under assignments -/

theorem value_single (assignment : Assignment) (literal : Literal) :
    (single literal).value assignment = literal.value assignment := by
  simp [single, ofClause, Expression.value]

/-! ### Negations under two assignments -/

section Lifting

variable {assignment assignment' : Assignment}

/-- A disjunction of negated literals holds where one of the literals fails. -/
theorem value_disj_negateLiteral
    (turned : ∀ literal ∈ clause,
      (negateLiteral facts literal).value assignment = !literal.value assignment')
    (returns : DisjReturns (clause.map (negateLiteral facts)) result) :
    result.value assignment = !clause.value assignment' := by
  obtain ⟨limit, run⟩ := returns
  have consistent : ∀ operand ∈ clause.map (negateLiteral facts),
      ∀ clause ∈ operand.clauses, clause.Consistent :=
    List.forall_mem_map.mpr fun literal _ => (formed_negateLiteral facts literal).consistent
  rw [value_disjWithin assignment consistent run, Clause.value, List.not_all_eq_any_not,
    List.any_map]
  exact any_congr_of_mem turned

theorem value_negateClause
    (turned : ∀ literal ∈ clause,
      (negateLiteral facts literal).value assignment = !literal.value assignment') :
    (negateClause facts clause).value assignment = !clause.value assignment' := by
  unfold negateClause
  split
  · rw [turned _ List.mem_cons_self]
    simp
  · exact value_disj_negateLiteral turned (disjReturns_negatedClause facts clause)

/-- **If negation turns every literal around, it turns the expression around.** What holds of the
literals under two assignments goes through the joins that the negation takes. -/
theorem value_negateWithin
    (turned : ∀ clause ∈ expression.clauses, ∀ literal ∈ clause,
      (negateLiteral facts literal).value assignment = !literal.value assignment')
    (run : expression.negateWithin facts limit = .ok result) :
    result.value assignment = !expression.value assignment' := by
  unfold Expression.negateWithin at run
  split at run
  · rename_i none'
    cases run
    rw [Expression.value_always, Expression.value, none']
    rfl
  · rename_i clause only
    have turned' := turned clause (by rw [only]; exact List.mem_cons_self)
    have negated : result.value assignment = !clause.value assignment' := by
      unfold negateClauseWithin at run
      split at run
      · cases run
        rw [turned' _ List.mem_cons_self]
        simp
      · exact value_disj_negateLiteral turned' ⟨limit, run⟩
    rw [negated, Expression.value, only]
    simp
  · rw [value_conjWithin assignment run, Expression.value, anyValue, List.not_any_eq_all_not,
      List.all_map]
    exact all_congr_of_mem fun clause inside => value_negateClause (turned clause inside)

end Lifting

/-! ### Negations without a limit -/

/-- What a negation without a limit returns: what it does within a limit that is great enough for its
conjunction. The disjunctions inside always return. -/
def Expression.NegationReturns (facts : Facts) (expression result : Expression) : Prop :=
  ∃ limit, expression.negateWithin facts limit = .ok result

/-- Within any limit a negation has one result. -/
theorem eq_negate_of_negateWithin (nanFree : expression.NaNFree)
    (run : expression.negateWithin facts limit = .ok result) :
    result = expression.negate facts := by
  have literals := kept_nanFree.negated facts trivial expression nanFree
  unfold Expression.negateWithin at run
  unfold Expression.negate
  split at run
  · cases run
    rfl
  · rename_i clause only
    have parts := literals clause (by rw [only]; exact List.mem_cons_self)
    unfold negateClauseWithin at run
    unfold negateClause
    split at run
    · cases run
      rfl
    · exact eq_disj_of_disjWithin (List.forall_mem_map.mpr parts) run
  · exact eq_conj_of_conjWithin (List.forall_mem_map.mpr fun clause inside =>
      kept_nanFree.negateClause (literals clause inside)) run

/-- A negation within a limit is the same within every greater one. -/
theorem negateWithin_mono (le : limit ≤ limit')
    (run : expression.negateWithin facts limit = .ok result) :
    expression.negateWithin facts limit' = .ok result := by
  unfold Expression.negateWithin at run ⊢
  split at run
  · exact run
  · unfold negateClauseWithin at run ⊢
    split at run
    · exact run
    · exact disjWithin_mono le run
  · exact conjWithin_mono le run

/-- Without NaN a negation ends within some limit. -/
theorem negateWithin_ends (nanFree : expression.NaNFree) :
    expression.NegationReturns facts (expression.negate facts) := by
  have literals := kept_nanFree.negated facts trivial expression nanFree
  have ends : ∃ limit result, expression.negateWithin facts limit = .ok result := by
    unfold Expression.negateWithin
    split
    · exact ⟨0, _, rfl⟩
    · rename_i clause only
      have parts := literals clause (by rw [only]; exact List.mem_cons_self)
      unfold negateClauseWithin
      split
      · exact ⟨0, _, rfl⟩
      · exact ⟨_, _, disjWithin_eq_disj (List.forall_mem_map.mpr parts) (Nat.le_refl _)⟩
    · exact ⟨_, _, conjWithin_eq_conj (List.forall_mem_map.mpr fun clause inside =>
        kept_nanFree.negateClause (literals clause inside)) (Nat.le_refl _)⟩
  obtain ⟨limit, result, run⟩ := ends
  exact ⟨limit, eq_negate_of_negateWithin nanFree run ▸ run⟩

/-! ### Negations and duals -/

/-- A negated literal that the facts leave open has the opposite of its dual value. -/
theorem value_negateLiteral (assignment : Assignment) (free : literal.Free facts) :
    (negateLiteral facts literal).value assignment = !literal.value assignment.dual := by
  rw [negateLiteral_of_free free, value_single, Literal.value_opposite]

/-- **The negation has the opposite of the dual value.** -/
theorem value_of_negateWithin (assignment : Assignment) (free : expression.Free facts)
    (run : expression.negateWithin facts limit = .ok result) :
    result.value assignment = !expression.value assignment.dual :=
  value_negateWithin (fun clause inside literal member =>
    value_negateLiteral assignment (free clause inside literal member)) run

theorem value_negate (assignment : Assignment) (free : expression.Free facts)
    (nanFree : expression.NaNFree) :
    (expression.negate facts).value assignment = !expression.value assignment.dual := by
  obtain ⟨limit, run⟩ := negateWithin_ends nanFree
  exact value_of_negateWithin assignment free run

/-- **Two negations cancel.** -/
theorem negate_negate_value (assignment : Assignment) (free : expression.Free facts)
    (nanFree : expression.NaNFree) :
    ((expression.negate facts).negate facts).value assignment = expression.value assignment := by
  rw [value_negate assignment (kept_free.negate rfl free) (kept_nanFree.negate trivial nanFree),
    value_negate assignment.dual free nanFree, Bool.not_not, Assignment.dual_dual]

/-! ### Negations without comparisons -/

/-- Whether a literal is a test, and no comparison. -/
def Literal.isTest : Literal → Bool
  | .test _ _ => true
  | .ordered _ _ _ => false

/-- No literal of an expression is a comparison. -/
def Expression.ComparisonFree (expression : Expression) : Prop :=
  ∀ clause ∈ expression.clauses, ∀ literal ∈ clause, literal.isTest = true

/-- The dual exchanges comparisons only. -/
theorem value_dual_of_comparisonFree (assignment : Assignment)
    (tests : expression.ComparisonFree) :
    expression.value assignment.dual = expression.value assignment := by
  refine any_all_congr_of_mem fun clause inside literal member => ?_
  have test := tests clause inside literal member
  cases literal with
  | test question holds => rfl
  | ordered key comparison bound => cases test

/-! ### Negations in contexts -/

/-- Every comparison of an expression is between finite numbers. -/
def Expression.ComparesNumbers (context : Context) (expression : Expression) : Prop :=
  ∀ clause ∈ expression.clauses, ∀ key comparison bound,
    Literal.ordered key comparison bound ∈ clause → WhenClause.ComparesNumbers context key bound

/-- Where comparisons are between numbers a context is its own dual. -/
theorem value_dual_of_comparesNumbers (numbers : expression.ComparesNumbers context) :
    expression.value context.assignment.dual = expression.value context.assignment := by
  refine any_all_congr_of_mem fun clause inside literal member => ?_
  cases literal with
  | test question holds => rfl
  | ordered key comparison bound =>
    show (!compares (context key) comparison.opposite bound) =
      compares (context key) comparison bound
    rw [compares_opposite (numbers clause inside key comparison bound member), Bool.not_not]

/-- **Negations evaluate to the complement.** The negation of an expression that was built under the
facts, without NaN, ends. In a context in which every comparison is between finite numbers it holds
exactly if the expression does not. -/
theorem evaluate_negate (built : Built (· = facts) expression) (nanFree : expression.NaNFree) :
    expression.NegationEnds ∧ ∀ context, expression.ComparesNumbers context →
      (expression.negate facts).evaluate context = !expression.evaluate context := by
  refine ⟨negationEnds nanFree, fun context numbers => ?_⟩
  rw [← Expression.value_assignment, ← Expression.value_assignment,
    value_negate context.assignment built.free nanFree, value_dual_of_comparesNumbers numbers]

end Engine

/-- Where `n` is `3`, `!(a && n < 1)` holds, as `a && n < 1` does not. -/
theorem evaluate_negate_bounded_key :
    ((conj [has none "a", compared "n" .less (.number Double.one)]).negate none).evaluate
        (fun _ => some (.number (.integer 3))) =
      !(conj [has none "a", compared "n" .less (.number Double.one)]).evaluate
        (fun _ => some (.number (.integer 3))) := by
  have built : ∀ operand ∈ [has none "a", compared "n" .less (.number Double.one)],
      Built (· = none) operand :=
    List.forall_mem_cons.mpr ⟨@Built.ofTest _ (· = none) none rfl _ _,
      List.forall_mem_singleton.mpr (@Built.compared _ (· = none) none rfl _ _ _)⟩
  have nanFree : ∀ operand ∈ [has none "a", compared "n" .less (.number Double.one)],
      operand.NaNFree := by decide
  refine (evaluate_negate (Built.conj built) (kept_nanFree.conj nanFree)).2 _ ?_
  intro clause inside key comparison bound member
  have among := subset_conjWithin (conjWithin_eq_conj nanFree (Nat.le_refl _)) clause inside member
  have same : bound = .number Double.one := by
    simp [literalsOf, has, compared, ofTest, single, ofClause, plainBound, Facts.constant?] at among
    exact among.2.2
  rw [same]
  exact ⟨Double.ofInt 3, Double.one, rfl, by decide, rfl, by decide⟩

end WhenClause

/-
**Exclusion.**

A comparison and its opposite both fail of a value that is no number, so the negation of an
expression is not its complement. But they never both hold. Under the dual of the answers of a
context, then, tests are answered alike, and every comparison holds that holds in the context. An
expression asks comparisons only as they stand, so what holds in the context holds under the dual,
and there the negation says that the expression fails.

* `Assignment.Below`, `Expression.value_mono`: what is true stays true where more comparisons hold;
* `Context.assignment_below_dual`: the answers of a context are below their dual;
* `evaluate_negate_excludes`: an expression and its negation never hold together, and they fail
  together only where a comparison is not between numbers.
-/

import WhenClause.Proofs.Negation
import WhenClause.Regex.Engine

namespace WhenClause

open Expression

/-! ### Comparisons and their opposites -/

/-- No two numbers compare both ways, NaN included. -/
theorem Comparison.holds_opposite_eq_false {comparison : Comparison} {left right : Double}
    (holds : comparison.holds left right = true) :
    comparison.opposite.holds left right = false := by
  have noNaN : left.isNaN = false ∧ right.isNaN = false := by
    cases comparison <;>
      simp only [Comparison.holds, Double.less, Double.atMost, Bool.and_eq_true,
        Bool.not_eq_true'] at holds
    · exact holds.1.symm
    · exact holds.1.symm
    · exact holds.1
    · exact holds.1
  rw [comparison.holds_opposite noNaN.1 noNaN.2, holds]
  rfl

/-- No value compares both ways with a bound. -/
theorem compares_opposite_eq_false {value : Option Json} {comparison : Comparison} {bound : Value}
    (holds : compares value comparison bound = true) :
    compares value comparison.opposite bound = false := by
  unfold compares at holds ⊢
  split at holds
  · exact Comparison.holds_opposite_eq_false holds
  · cases holds

section Engine

variable [PatternEngine]
variable {facts : Facts} {expression : Expression} {clause : Clause} {literal : Literal}
  {lower upper : Assignment} {context : Context}

/-! ### Where more comparisons hold -/

/-- Both assignments answer tests alike, and every comparison that holds under the first holds under
the second. -/
structure Assignment.Below (lower upper : Assignment) : Prop where
  answer : ∀ question, lower.answer question = upper.answer question
  compare : ∀ key comparison bound,
    lower.compare key comparison bound = true → upper.compare key comparison bound = true

/-- No literal asks for the failure of a comparison. -/
theorem Literal.value_mono (below : lower.Below upper) (holds : literal.value lower = true) :
    literal.value upper = true := by
  cases literal with
  | test question polarity =>
    rw [Literal.value, ← below.answer]
    exact holds
  | ordered key comparison bound => exact below.compare key comparison bound holds

theorem Clause.value_mono (below : lower.Below upper) (holds : Clause.value lower clause = true) :
    Clause.value upper clause = true := by
  rw [Clause.value_eq_true] at holds ⊢
  exact fun literal member => Literal.value_mono below (holds literal member)

/-- **What is true stays true where more comparisons hold.** -/
theorem Expression.value_mono (below : lower.Below upper) (holds : expression.value lower = true) :
    expression.value upper = true := by
  rw [Expression.value, anyValue_eq_true] at holds ⊢
  obtain ⟨clause, inside, holds⟩ := holds
  exact ⟨clause, inside, Clause.value_mono below holds⟩

/-- **The answers of a context are below their dual.** -/
theorem Context.assignment_below_dual (context : Context) :
    context.assignment.Below context.assignment.dual where
  answer _ := rfl
  compare key comparison bound holds := by
    show (!compares (context key) comparison.opposite bound) = true
    rw [compares_opposite_eq_false holds]
    rfl

/-! ### Negations -/

/-- **An expression and its negation exclude each other.** The negation of an expression that was
built under the facts, without NaN, ends. In no context do both hold, and if both fail, then a
comparison of the expression is not between finite numbers. -/
theorem evaluate_negate_excludes (built : Built (· = facts) expression)
    (nanFree : expression.NaNFree) :
    expression.NegationEnds ∧ ∀ context,
      ¬(expression.evaluate context = true ∧
        (expression.negate facts).evaluate context = true) ∧
      (expression.evaluate context = false ∧ (expression.negate facts).evaluate context = false →
        ¬expression.ComparesNumbers context) := by
  refine ⟨negationEnds nanFree, fun context => ?_⟩
  have dual : (expression.negate facts).evaluate context =
      !expression.value context.assignment.dual := by
    rw [← Expression.value_assignment, value_negate _ built.free nanFree]
  rw [dual, ← Expression.value_assignment]
  refine ⟨?_, ?_⟩
  · rintro ⟨holds, fails⟩
    rw [Expression.value_mono context.assignment_below_dual holds] at fails
    cases fails
  · rintro ⟨fails, holds⟩ numbers
    rw [value_dual_of_comparesNumbers numbers, fails] at holds
    cases holds

end Engine

/-- Where `n` is a text that writes no number, both `a && n < 1` and `!a || n >= 1` fail. -/
theorem excludes_bounded_key :
    ¬((conj [has none "a", compared "n" .less (.number Double.one)]).evaluate
          (fun _ => some (.string "x")) = true ∧
        ((conj [has none "a", compared "n" .less (.number Double.one)]).negate none).evaluate
          (fun _ => some (.string "x")) = true) ∧
      (conj [has none "a", compared "n" .less (.number Double.one)]).evaluate
        (fun _ => some (.string "x")) = false ∧
      ((conj [has none "a", compared "n" .less (.number Double.one)]).negate none).evaluate
        (fun _ => some (.string "x")) = false ∧
      ¬(conj [has none "a", compared "n" .less (.number Double.one)]).ComparesNumbers
        (fun _ => some (.string "x")) := by
  have built : ∀ operand ∈ [has none "a", compared "n" .less (.number Double.one)],
      Built (· = none) operand :=
    forall_mem_pair (@Built.ofTest _ (· = none) none rfl _ _)
      (@Built.compared _ (· = none) none rfl _ _ _)
  have nanFree : ∀ operand ∈ [has none "a", compared "n" .less (.number Double.one)],
      operand.NaNFree := by decide
  have fails : (conj [has none "a", compared "n" .less (.number Double.one)]).evaluate
      (fun _ => some (.string "x")) = false := by
    rw [← Expression.value_assignment, value_conj _ nanFree]
    decide
  have fails' : ((conj [has none "a", compared "n" .less (.number Double.one)]).negate
      none).evaluate (fun _ => some (.string "x")) = false := by
    rw [← Expression.value_assignment, value_negate _ (Built.conj built).free
      (kept_nanFree.conj nanFree), value_conj _ nanFree]
    decide
  obtain ⟨-, exclusive⟩ := evaluate_negate_excludes (Built.conj built) (kept_nanFree.conj nanFree)
  obtain ⟨never', numbers⟩ := exclusive fun _ => some (.string "x")
  exact ⟨never', fails, fails', numbers ⟨fails, fails'⟩⟩

end WhenClause

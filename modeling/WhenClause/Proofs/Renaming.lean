/-
**Renaming keys.**

To rename the keys of an expression is to ask the same questions of a context in which every key has
what its new name has. A renaming may take several keys to one. Then literals coincide or become
complements, clauses collapse, and consensus adds others. None of that shows in values: while no
platform facts are known each literal is built anew as it stands, and joins have the value of their
parts.

* `Assignment.renamed`, `Literal.value_renamed`: answers that are read through a renaming are an
  assignment, and a renamed literal has its value under it;
* `value_rename_unresolved`: so has a renamed expression;
* `Context.assignment_renamed`, `evaluate_rename`: hence it evaluates in a context to what the
  expression does in the context that is read through the renaming.
-/

import WhenClause.Proofs.Folding
import WhenClause.Regex.Engine

namespace WhenClause

open Expression

section Engine

variable [PatternEngine]
variable {known : Facts → Prop} {expression : Expression} {literal : Literal} {question : Test}

/-! ### Answers read through a renaming -/

/-- Tests that are the same are the same under new names. -/
theorem Test.rename_congr (naming : String → String) (assignment : Assignment) {left right : Test}
    (same : (left == right) = true) :
    assignment.answer (left.rename naming) = assignment.answer (right.rename naming) := by
  rcases (Test.beq_iff _ _).mp same with ⟨rfl, -⟩ | ⟨key, value, value', rfl, rfl, values⟩
  · rfl
  · exact assignment.answer_congr
      ((Test.beq_iff _ _).mpr (.inr ⟨naming key, value, value', rfl, rfl, values⟩))

/-- The assignment that says of each key what another one says of its new name. -/
def Assignment.renamed (naming : String → String) (assignment : Assignment) : Assignment where
  answer question := assignment.answer (question.rename naming)
  compare key comparison bound := assignment.compare (naming key) comparison bound
  answer_congr := Test.rename_congr naming assignment
  compare_congr key comparison _ _ same := assignment.compare_congr (naming key) comparison same

/-- **A renamed literal has the value of the literal under answers read through the renaming.** -/
theorem Literal.value_renamed (naming : String → String) (assignment : Assignment)
    (literal : Literal) :
    (literal.rename naming).value assignment = literal.value (assignment.renamed naming) := by
  cases literal with
  | test question holds => rfl
  | ordered key comparison bound => rfl

/-- The answers of a context that is read through a renaming. -/
theorem Context.assignment_renamed (naming : String → String) (context : Context) :
    context.assignment.renamed naming = Context.assignment fun key => context (naming key) := by
  refine Assignment.ext (funext fun question => ?_) rfl
  cases question with
  | has key => rfl
  | equals key value => rfl
  | matching key pattern => rfl
  | member key container => rfl

/-! ### Renaming while nothing is known -/

/-- No name fixes the value of a key while nothing is known. -/
theorem Literal.Free.rename (free : literal.Free Facts.unresolved) (naming : String → String) :
    (literal.rename naming).Free Facts.unresolved := by
  cases literal with
  | test question holds =>
    cases question with
    | has key => rfl
    | equals key value => exact ⟨rfl, free.2⟩
    | matching key pattern => trivial
    | member key container => trivial
  | ordered key comparison bound => exact free

/-- **A renamed expression has the value of the expression under answers read through the
renaming.** -/
theorem value_rename_unresolved (naming : String → String) (assignment : Assignment)
    (free : expression.Free Facts.unresolved) (nanFree : expression.NaNFree) :
    (expression.rename Facts.unresolved naming).value assignment =
      expression.value (assignment.renamed naming) := by
  rw [value_rename assignment naming nanFree]
  refine any_all_congr_of_mem fun clause inside literal member => ?_
  rw [ofLiteral_of_free ((free clause inside literal member).rename naming), value_single,
    Literal.value_renamed]

/-- **Renaming keys is reading them under their new names.** While no platform facts are known, an
expression without NaN is renamed in joins that all return, whatever the renaming takes together.
The result evaluates in a context to what the expression does where each key has what its new name
has in the context. -/
theorem evaluate_rename (built : Built known expression) (nanFree : expression.NaNFree) :
    expression.RenamingEnds ∧ ∀ (naming : String → String) (context : Context),
      (expression.rename Facts.unresolved naming).evaluate context =
        expression.evaluate fun key => context (naming key) := by
  refine ⟨renamingEnds nanFree, fun naming context => ?_⟩
  rw [← Expression.value_assignment, ← Expression.value_assignment,
    value_rename_unresolved naming context.assignment built.free_unresolved nanFree,
    Context.assignment_renamed]

end Engine

/-- With both keys renamed to `c`, the first clause of `a && !b || b == 'x'` holds nowhere. The
expression holds where `c` is `x`, as it does before where both keys are. -/
theorem evaluate_rename_together :
    ((disj [conj [has none "a", lacks none "b"], equals none "b" (.string "x")]).rename none
        fun _ => "c").evaluate (fun key => if key = "c" then some (.string "x") else none) =
      (disj [conj [has none "a", lacks none "b"], equals none "b" (.string "x")]).evaluate
        (fun _ => some (.string "x")) ∧
    (disj [conj [has none "a", lacks none "b"], equals none "b" (.string "x")]).evaluate
      (fun _ => some (.string "x")) = true := by
  have clause : ∀ operand ∈ [has none "a", lacks none "b"], Built (· = none) operand :=
    forall_mem_pair (@Built.ofTest _ (· = none) none rfl _ _)
      (@Built.ofTest _ (· = none) none rfl _ _)
  have built : ∀ operand ∈ [conj [has none "a", lacks none "b"], equals none "b" (.string "x")],
      Built (· = none) operand :=
    forall_mem_pair (Built.conj clause) (@Built.ofTest _ (· = none) none rfl _ _)
  have clauseFree : ∀ operand ∈ [has none "a", lacks none "b"], operand.NaNFree := by decide
  have nanFree : ∀ operand ∈ [conj [has none "a", lacks none "b"], equals none "b" (.string "x")],
      operand.NaNFree :=
    forall_mem_pair (kept_nanFree.conj clauseFree) (by decide)
  refine ⟨(evaluate_rename (Built.disj built) (kept_nanFree.disj nanFree)).2 (fun _ => "c")
    fun key => if key = "c" then some (.string "x") else none, ?_⟩
  rw [← Expression.value_assignment,
    value_disj _ (fun operand among => (built operand among).formed.consistent) nanFree,
    List.any_cons, value_conj _ clauseFree]
  decide

end WhenClause

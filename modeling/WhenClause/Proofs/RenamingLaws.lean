/-
**Renaming twice, and not at all.**

Renaming builds a canonical form anew: each literal under its new keys, each clause from its literals,
and the whole from its clauses. With every key left as it is nothing happens on the way. A consistent
clause is joined to itself, and the clauses of a canonical form are complete, so they are neither
closed nor absorbed, and they keep their order. Two renamings, one behind the other, are one renaming
up to the order of clauses and literals: where the first one takes literals together the clauses are
joined anew, but their values are those of the second one behind the first.

* `rename_id`: a canonical form whose literals are free is left as it is;
* `Assignment.renamed_renamed`: reading answers through two renamings is reading them through both;
* `rename_laws`: while no platform facts are known renaming respects identity and composition.
-/

import WhenClause.Expression.Printer
import WhenClause.Proofs.Complete
import WhenClause.Proofs.Renaming
import WhenClause.Regex.Engine

namespace WhenClause

open Expression

section Engine

variable [PatternEngine]
variable {known : Facts → Prop} {facts : Facts} {expression : Expression} {clause : Clause}

/-! ### Keys that stay -/

/-- A consistent clause is rebuilt as it stands. -/
theorem renameClause_id (consistent : clause.Consistent)
    (free : ∀ literal ∈ clause, literal.Free facts) :
    renameClause facts id clause = ofClause clause := by
  have plain : ∀ literal ∈ clause, ofLiteral facts (literal.rename id) = single literal := by
    intro literal member
    rw [Literal.rename_id, ofLiteral_of_free (free literal member)]
  unfold renameClause
  split
  · exact plain _ (List.mem_singleton_self _)
  · rw [List.map_congr_left plain, conj_map_single consistent]

/-- **A canonical form is rebuilt as it stands**, its clauses and literals in their order, as long as
the facts leave its literals open. -/
theorem rename_id (formed : expression.Formed) (nanFree : expression.NaNFree)
    (free : expression.Free facts) : expression.rename facts id = expression := by
  have parts : ∀ clause ∈ expression.clauses, renameClause facts id clause = ofClause clause :=
    fun clause inside => renameClause_id (formed.consistent clause inside) (free clause inside)
  have complete := formed.complete nanFree
  have alone := formed.eq_always
  obtain ⟨clauses⟩ := expression
  unfold rename
  split
  · rename_i none
    rw [show clauses = [] from none]
    rfl
  · rename_i clause one
    rw [parts clause (by rw [one]; exact List.mem_singleton_self _), ofClause]
    exact congrArg Expression.mk one.symm
  · rename_i more
    -- an empty clause would be the only one
    have some' : [] ∉ clauses := fun empty => more [] (congrArg Expression.clauses (alone empty))
    rw [List.map_congr_left parts]
    exact disj_map_ofClause complete some'

/-! ### Two renamings -/

theorem Test.rename_rename (first second : String → String) (question : Test) :
    (question.rename first).rename second = question.rename (second ∘ first) := by
  cases question with
  | has key => rfl
  | equals key value => rfl
  | matching key pattern => rfl
  | member key container => rfl

/-- Answers read through two renamings are read through the one behind the other. -/
theorem Assignment.renamed_renamed (first second : String → String) (assignment : Assignment) :
    (assignment.renamed second).renamed first = assignment.renamed (second ∘ first) := by
  refine Assignment.ext (funext fun question => ?_) rfl
  exact congrArg assignment.answer (question.rename_rename first second)

/-- Renaming twice has the value of renaming once. -/
theorem value_rename_rename (first second : String → String) (assignment : Assignment)
    (free : expression.Free Facts.unresolved) (nanFree : expression.NaNFree) :
    ((expression.rename Facts.unresolved first).rename Facts.unresolved second).value assignment =
      (expression.rename Facts.unresolved (second ∘ first)).value assignment := by
  have free' : (expression.rename Facts.unresolved first).Free Facts.unresolved :=
    kept_free_unresolved.rename trivial first free
  have nanFree' : (expression.rename Facts.unresolved first).NaNFree :=
    kept_nanFree.rename trivial first nanFree
  rw [value_rename_unresolved second assignment free' nanFree',
    value_rename_unresolved first _ free nanFree, Assignment.renamed_renamed,
    value_rename_unresolved (second ∘ first) assignment free nanFree]

/-- **Renaming respects identity and composition.** While no platform facts are known, a built
expression without NaN is renamed in joins that all return, and so is the result. With every key left
as it is the expression stays as it is, and so do its text and that of the expression with the known
constants put in. Two renamings, one behind the other, give what both at once do, also where the first
one takes keys together that the second one would keep apart. -/
theorem rename_laws (built : Built known expression) (nanFree : expression.NaNFree)
    (first second : String → String) :
    expression.RenamingEnds ∧ (expression.rename Facts.unresolved first).RenamingEnds ∧
      expression.rename Facts.unresolved id = expression ∧
      (expression.rename Facts.unresolved id).render = expression.render ∧
      (expression.substituteConstants Facts.unresolved).render = expression.render ∧
      ((expression.rename Facts.unresolved first).rename Facts.unresolved second ==
        expression.rename Facts.unresolved (second ∘ first)) = true := by
  have free := built.free_unresolved
  have same := rename_id built.formed nanFree free
  have nanFree' : ∀ naming, (expression.rename Facts.unresolved naming).NaNFree :=
    fun naming => kept_nanFree.rename trivial naming nanFree
  have formed' : ∀ naming, (expression.rename Facts.unresolved naming).Formed :=
    fun naming => kept_formed.rename trivial naming built.formed
  refine ⟨renamingEnds nanFree, renamingEnds (nanFree' first), same, ?_, ?_, ?_⟩
  · rw [same]
  · rw [substituteConstants, same]
  · exact beq_of_value_eq (kept_formed.rename trivial second (formed' first)) (formed' _)
      (kept_nanFree.rename trivial second (nanFree' first)) (nanFree' _)
      fun assignment => value_rename_rename first second assignment free nanFree

end Engine

/-- Both keys of `a && !b` become `c`, which leaves nothing of it, and then `view.c`. -/
theorem rename_laws_together :
    (conj [has none "a", lacks none "b"]).rename none id = conj [has none "a", lacks none "b"] ∧
    (((conj [has none "a", lacks none "b"]).rename none fun _ => "c").rename none ("view." ++ ·) ==
      (conj [has none "a", lacks none "b"]).rename none (("view." ++ ·) ∘ fun _ => "c")) = true := by
  have built : Built (· = none) (conj [has none "a", lacks none "b"]) :=
    Built.conj (forall_mem_pair (@Built.ofTest _ (· = none) none rfl _ _)
      (@Built.ofTest _ (· = none) none rfl _ _))
  have nanFree : (conj [has none "a", lacks none "b"]).NaNFree := kept_nanFree.conj (by decide)
  obtain ⟨-, -, same, -, -, twice⟩ := rename_laws built nanFree (fun _ => "c") ("view." ++ ·)
  exact ⟨same, twice⟩

end WhenClause

/-
**Literals that the facts leave open.**

Under platform facts a literal is `Free` if it is kept as it stands: the facts fix no key that it
tests, and it names no Boolean, which would become the truth of a key or a text.

* `ofLiteral_of_free`, `negateLiteral_of_free`: building a free literal anew changes nothing, and
  negating it turns it around;
* `Built.free`: what operations build under fixed facts has free literals only;
* `Built.free_unresolved`: what they build while the facts change has literals that are free as long
  as nothing is known.
-/

import WhenClause.Proofs.Built

namespace WhenClause

open Expression

/-- Whether a value is a Boolean. -/
def Value.isBoolean : Value → Bool
  | .boolean _ => true
  | _ => false

theorem plainBound_of_free {bound : Value} (free : bound.isBoolean = false) :
    plainBound bound = bound := by
  cases bound with
  | boolean value => cases free
  | number value => rfl
  | string value => rfl

variable [PatternEngine]
variable {known : Facts → Prop} {facts : Facts} {expression : Expression}
  {operands : List Expression} {literal : Literal} {question : Test}

/-- The facts fix no key that a test asks for, and it names no Boolean. -/
def Test.Free (facts : Facts) : Test → Prop
  | .has key => facts.constant? key = none
  | .equals key value => facts.constant? key = none ∧ value.isBoolean = false
  | _ => True

/-- The facts leave a literal as it stands. -/
def Literal.Free (facts : Facts) : Literal → Prop
  | .test question _ => question.Free facts
  | .ordered _ _ bound => bound.isBoolean = false

/-- The facts leave every literal of an expression as it stands. -/
def Expression.Free (facts : Facts) (expression : Expression) : Prop :=
  ∀ clause ∈ expression.clauses, ∀ literal ∈ clause, literal.Free facts

/-! ### Building free literals -/

theorem ofTest_of_free (free : question.Free facts) (holds : Bool) :
    ofTest facts question holds = single (.test question holds) := by
  cases question with
  | has key =>
    rw [ofTest, show facts.constant? key = none from free]
  | equals key value =>
    obtain ⟨unknown, plain⟩ := free
    cases value with
    | boolean value => cases plain
    | number value => simp only [ofTest, unknown]
    | string value => simp only [ofTest, unknown]
  | matching key pattern => rfl
  | member key container => rfl

/-- **A free literal is built as it stands.** -/
theorem ofLiteral_of_free (free : literal.Free facts) : ofLiteral facts literal = single literal := by
  cases literal with
  | test question holds => exact ofTest_of_free free holds
  | ordered key comparison bound => rw [ofLiteral, plainBound_of_free free]

/-- **A free literal is negated by turning it around.** -/
theorem negateLiteral_of_free (free : literal.Free facts) :
    negateLiteral facts literal = single literal.opposite := by
  cases literal with
  | test question holds => exact ofTest_of_free free (!holds)
  | ordered key comparison bound => rfl

theorem Literal.Free.opposite (free : literal.Free facts) : literal.opposite.Free facts := by
  cases literal with
  | test question holds => exact free
  | ordered key comparison bound => exact free

/-! ### What is built is free -/

theorem free_single (free : literal.Free facts) : (single literal).Free facts :=
  List.forall_mem_singleton.mpr (List.forall_mem_singleton.mpr free)

theorem free_ofBool (value : Bool) : (ofBool value).Free facts := by
  cases value with
  | false => exact List.forall_mem_nil _
  | true => exact List.forall_mem_singleton.mpr (List.forall_mem_nil _)

/-- The expression of a test is a constant where the facts fix its key. -/
theorem free_ofTest (facts : Facts) (question : Test) (holds : Bool) :
    (ofTest facts question holds).Free facts := by
  unfold ofTest
  split
  · split
    · exact free_ofBool _
    · rename_i unknown
      exact @free_single _ _ (.test (.has _) _) unknown
  · split
    · exact free_ofBool _
    · rename_i unknown
      exact @free_single _ _ (.test (.has _) _) unknown
  · rename_i plain
    split
    · exact free_ofBool _
    · rename_i value _ unknown
      refine @free_single _ _ (.test (.equals _ _) _) ⟨unknown, ?_⟩
      cases value with
      | boolean value => exact absurd rfl (plain value)
      | number value => rfl
      | string value => rfl
  · rename_i noKey noBoolean noValue
    refine @free_single _ _ (.test _ _) ?_
    cases question with
    | has key => exact absurd rfl (noKey key)
    | equals key value => exact absurd rfl (noValue key value)
    | matching key pattern => trivial
    | member key container => trivial

theorem free_ofLiteral (facts : Facts) (literal : Literal) : (ofLiteral facts literal).Free facts := by
  cases literal with
  | test question holds => exact free_ofTest facts question holds
  | ordered key comparison bound =>
    refine @free_single _ _ (.ordered _ _ _) ?_
    cases bound with
    | boolean value => rfl
    | number value => rfl
    | string value => rfl

theorem free_literalsOf (free : ∀ operand ∈ operands, operand.Free facts) :
    ∀ literal ∈ literalsOf operands, literal.Free facts := by
  intro literal member
  obtain ⟨operand, among, clause, inside, member⟩ := mem_literalsOf.mp member
  exact free operand among clause inside literal member

/-- **Under fixed facts every operation leaves free literals only.** -/
theorem kept_free : Kept (· = facts) (Expression.Free facts) where
  constant := free_ofBool
  literal := by
    rintro _ rfl literal -
    exact free_ofLiteral _ literal
  negated := by
    rintro _ rfl expression free clause inside literal member
    have opposite := (free clause inside literal member).opposite
    rw [negateLiteral_of_free (free clause inside literal member)]
    exact free_single opposite
  renamed := by
    rintro _ rfl naming expression - clause - literal -
    exact free_ofLiteral _ _
  conjWithin parts run clause inside literal member :=
    free_literalsOf parts literal (subset_conjWithin run clause inside member)
  disjWithin parts run clause inside literal member :=
    free_literalsOf parts literal (subset_disjWithin run clause inside member)

theorem Expression.Free.alternative {part : Expression} (free : expression.Free facts)
    (member : part ∈ expression.alternatives) : part.Free facts := by
  unfold alternatives at member
  split at member
  · rw [List.mem_singleton.mp member]
    exact free
  · obtain ⟨clause, inside, rfl⟩ := List.mem_map.mp member
    exact List.forall_mem_singleton.mpr (free clause inside)

theorem Expression.Free.conjunct {part : Expression} (free : expression.Free facts)
    (member : part ∈ expression.conjuncts) : part.Free facts := by
  unfold conjuncts at member
  split at member
  · rename_i head tail only
    obtain ⟨literal, inside, rfl⟩ := List.mem_map.mp member
    exact free_single (free _ (by rw [only]; exact List.mem_cons_self) literal inside)
  · rw [List.mem_singleton.mp member]
    exact free

/-- **What operations build under fixed facts has free literals only.** -/
theorem Expression.Built.free (built : Built (· = facts) expression) : expression.Free facts :=
  built.of_kept kept_free (fun _ now literal => now ▸ free_ofLiteral _ literal)
    Expression.Free.alternative Expression.Free.conjunct

/-! ### What is built under changing facts -/

/-- What some facts leave as it stands is so while no facts are known. -/
theorem Literal.Free.forget (free : literal.Free facts) : literal.Free Facts.unresolved := by
  cases literal with
  | test question holds =>
    cases question with
    | equals key value => exact ⟨rfl, free.2⟩
    | has key => rfl
    | matching key pattern => trivial
    | member key container => trivial
  | ordered key comparison bound => exact free

theorem Expression.Free.forget (free : expression.Free facts) : expression.Free Facts.unresolved :=
  fun clause inside literal member => (free clause inside literal member).forget

/-- Whatever facts an operation reads, it leaves literals only that are free without facts. -/
theorem kept_free_unresolved : Kept (fun _ => True) (Expression.Free Facts.unresolved) where
  constant := free_ofBool
  literal facts _ literal _ := (free_ofLiteral facts literal).forget
  negated := by
    intro facts _ expression free clause inside literal member
    cases literal with
    | test question holds => exact (free_ofTest facts question (!holds)).forget
    | ordered key comparison bound =>
      exact free_single (free clause inside _ member).opposite
  renamed facts _ naming expression _ clause _ literal _ := (free_ofLiteral facts _).forget
  conjWithin := kept_free.conjWithin
  disjWithin := kept_free.disjWithin

/-- **What operations build under any facts has literals only that are free without facts.** -/
theorem Expression.Built.free_unresolved (built : Built known expression) :
    expression.Free Facts.unresolved :=
  built.of_kept (kept_free_unresolved.under known)
    (fun facts _ literal => (free_ofLiteral facts literal).forget)
    Expression.Free.alternative Expression.Free.conjunct

end WhenClause

/-
**Expressions that operations build.**

An expression is `Built` if a sequence of operations leads to it: constructors, joins, negations,
renamings, parsing, and taking parts. Which platform facts are known may change in between. Each
such expression is `Formed`: it is the canonical form of consistent clauses.

* `Built.of_kept`: what all operations keep holds of everything built, by induction on them;
* `Built.formed`: so everything built is a canonical form;
* `evaluate_joins`: in every context, joins of built expressions evaluate as they should.
-/

import WhenClause.Proofs.Operations
import WhenClause.Regex.Engine

namespace WhenClause

open Expression

section Engine

variable [PatternEngine]
variable {known : Facts → Prop} {facts : Facts} {expression part result : Expression}
  {operands : List Expression} {clause : Clause} {literal : Literal} {limit : Nat}

/-! ### Reachable expressions -/

/-- Expressions that operations build, each of them under facts that are known at the time. The
constructors named after tests are instances of `literal`. -/
inductive Expression.Built (known : Facts → Prop) : Expression → Prop where
  | constant (value : Bool) : Built known (ofBool value)
  | literal {facts : Facts} (now : known facts) (literal : Literal) :
      Built known (ofLiteral facts literal)
  | conj {operands : List Expression} (parts : ∀ operand ∈ operands, Built known operand) :
      Built known (conj operands)
  | disj {operands : List Expression} (parts : ∀ operand ∈ operands, Built known operand) :
      Built known (disj operands)
  | conjWithin {limit : Nat} {operands : List Expression} {result : Expression}
      (parts : ∀ operand ∈ operands, Built known operand)
      (run : conjWithin limit operands = .ok result) : Built known result
  | disjWithin {limit : Nat} {operands : List Expression} {result : Expression}
      (parts : ∀ operand ∈ operands, Built known operand)
      (run : disjWithin limit operands = .ok result) : Built known result
  | negate {facts : Facts} {expression : Expression} (now : known facts)
      (built : Built known expression) : Built known (expression.negate facts)
  | negateWithin {facts : Facts} {limit : Nat} {expression result : Expression} (now : known facts)
      (built : Built known expression) (run : expression.negateWithin facts limit = .ok result) :
      Built known result
  | rename {facts : Facts} {expression : Expression} (now : known facts)
      (naming : String → String) (built : Built known expression) :
      Built known (expression.rename facts naming)
  | parse {facts : Facts} {limits : Limits} {text : String} {result : Expression}
      (now : known facts) (run : parse facts limits text = .ok result) : Built known result
  | alternative {expression part : Expression} (built : Built known expression)
      (member : part ∈ expression.alternatives) : Built known part
  | conjunct {expression part : Expression} (built : Built known expression)
      (member : part ∈ expression.conjuncts) : Built known part

namespace Expression.Built

theorem ofTest (now : known facts) (question : Test) (holds : Bool) :
    Built known (ofTest facts question holds) :=
  literal now (.test question holds)

theorem compared (facts : Facts) (now : known facts) (key : String) (comparison : Comparison)
    (bound : Value) : Built known (compared key comparison bound) :=
  literal now (.ordered key comparison bound)

theorem substituteConstants (now : known facts) (built : Built known expression) :
    Built known (expression.substituteConstants facts) :=
  built.rename now id

theorem ofJson (now : known facts) {value : Json} (run : ofJson facts value = .ok expression) :
    Built known expression := by
  cases value with
  | string text =>
    cases read : Expression.parse facts {} text with
    | ok result =>
      simp only [Expression.ofJson, read] at run
      cases run
      exact parse now read
    | error _ =>
      simp only [Expression.ofJson, read] at run
      cases run
  | boolean value => cases run; exact constant value
  | _ => cases run

/-- **What all operations keep holds of everything that is built.** -/
theorem of_kept {property : Expression → Prop} (kept : Kept known property)
    (literal : ∀ facts, known facts → ∀ literal : Literal, property (ofLiteral facts literal))
    (alternative : ∀ {expression part}, property expression → part ∈ expression.alternatives →
      property part)
    (conjunct : ∀ {expression part}, property expression → part ∈ expression.conjuncts →
      property part)
    (built : Built known expression) : property expression := by
  induction built with
  | constant value => exact kept.constant value
  | literal now written => exact literal _ now written
  | conj _ parts => exact kept.conj parts
  | disj _ parts => exact kept.disj parts
  | conjWithin _ run parts => exact kept.conjWithin parts run
  | disjWithin _ run parts => exact kept.disjWithin parts run
  | negate now _ holds => exact kept.negate now holds
  | negateWithin now _ run holds => exact kept.negateWithin now holds run
  | rename now naming _ holds => exact kept.rename now naming holds
  | parse now run => exact kept.parse now run
  | alternative _ member holds => exact alternative holds member
  | conjunct _ member holds => exact conjunct holds member

end Expression.Built

/-! ### Canonical forms -/

/-- An expression is the canonical form of consistent clauses. -/
def Expression.Formed (expression : Expression) : Prop :=
  ∃ limit clauses, (∀ clause ∈ clauses, clause.Consistent) ∧
    ofClausesWithin limit clauses = .ok expression

theorem Expression.Formed.consistent (formed : expression.Formed) :
    ∀ clause ∈ expression.clauses, clause.Consistent := by
  obtain ⟨limit, clauses, consistent, run⟩ := formed
  exact consistent_ofClausesWithin consistent run

theorem formed_ofClause (consistent : clause.Consistent) : (ofClause clause).Formed :=
  ⟨0, [clause], List.forall_mem_singleton.mpr consistent, ofClausesWithin_singleton 0 clause⟩

theorem formed_single (literal : Literal) : (single literal).Formed :=
  formed_ofClause (Clause.consistent_singleton literal)

theorem formed_never : never.Formed := by
  have closes : closeWithin 0 [] [] = .ok [] := by rw [closeWithin]
  refine ⟨0, [], List.forall_mem_nil _, ?_⟩
  rw [ofClausesWithin, closes]
  rfl

theorem formed_ofBool (value : Bool) : (ofBool value).Formed := by
  cases value with
  | false => exact formed_never
  | true => exact formed_ofClause Clause.consistent_nil

theorem formed_ofLiteral (facts : Facts) (literal : Literal) :
    (ofLiteral facts literal).Formed := by
  rcases ofLiteral_cases facts literal with ⟨value, same⟩ | ⟨literal', same, -⟩
  · rw [same]
    exact formed_ofBool value
  · rw [same]
    exact formed_single literal'

theorem formed_negateLiteral (facts : Facts) (literal : Literal) :
    (negateLiteral facts literal).Formed := by
  rcases negateLiteral_cases facts literal with same | same
  · rw [same]
    exact formed_ofLiteral facts _
  · rw [same]
    exact formed_single _

/-- **Every operation results in a canonical form.** -/
theorem kept_formed : Kept (fun _ => True) Expression.Formed where
  constant := formed_ofBool
  literal facts _ literal _ := formed_ofLiteral facts literal
  negated facts _ _ _ _ _ literal _ := formed_negateLiteral facts literal
  renamed facts _ _ _ _ _ _ _ _ := formed_ofLiteral facts _
  conjWithin _ run := by
    obtain ⟨clauses, joins, consistent, -⟩ := conjWithin_eq_ok run
    exact ⟨_, clauses, consistent, joins⟩
  disjWithin parts run := by
    obtain ⟨clauses, joins, subset, -⟩ := disjWithin_eq_ok run
    exact ⟨_, clauses, consistent_of_subset (fun operand among => (parts operand among).consistent)
      subset, joins⟩

/-- The parts of a canonical form are canonical forms. -/
theorem Expression.Formed.alternative (formed : expression.Formed)
    (member : part ∈ expression.alternatives) : part.Formed := by
  unfold alternatives at member
  split at member
  · rw [List.mem_singleton.mp member]
    exact formed
  · obtain ⟨clause, inside, rfl⟩ := List.mem_map.mp member
    exact formed_ofClause (formed.consistent clause inside)

theorem Expression.Formed.conjunct (formed : expression.Formed)
    (member : part ∈ expression.conjuncts) : part.Formed := by
  unfold conjuncts at member
  split at member
  · obtain ⟨literal, -, rfl⟩ := List.mem_map.mp member
    exact formed_single literal
  · rw [List.mem_singleton.mp member]
    exact formed

/-- **Every expression that operations build is a canonical form.** -/
theorem Expression.Built.formed (built : Built known expression) : expression.Formed :=
  built.of_kept (kept_formed.under known) (fun facts _ => formed_ofLiteral facts)
    Expression.Formed.alternative Expression.Formed.conjunct

/-! ### The value of joins -/

/-- **Joins of built expressions evaluate as they should.** Whenever a conjunction returns, the
result holds exactly if all operands do, and whenever a disjunction returns, exactly if one of them
does. Without NaN both return. -/
theorem evaluate_joins (built : ∀ operand ∈ operands, Built known operand) (context : Context) :
    (∀ result, ConjReturns operands result →
      result.evaluate context = operands.all (·.evaluate context)) ∧
    (∀ result, DisjReturns operands result →
      result.evaluate context = operands.any (·.evaluate context)) ∧
    ((∀ operand ∈ operands, operand.NaNFree) →
      (Expression.conj operands).evaluate context = operands.all (·.evaluate context) ∧
      (Expression.disj operands).evaluate context = operands.any (·.evaluate context)) := by
  have conj : ∀ result, ConjReturns operands result →
      result.evaluate context = operands.all (·.evaluate context) := by
    rintro result ⟨limit, run⟩
    have value := value_conjWithin context.assignment run
    simp only [Expression.value_assignment] at value
    exact value
  have disj : ∀ result, DisjReturns operands result →
      result.evaluate context = operands.any (·.evaluate context) := by
    rintro result ⟨limit, run⟩
    have value := value_disjWithin context.assignment
      (fun operand among => (built operand among).formed.consistent) run
    simp only [Expression.value_assignment] at value
    exact value
  exact ⟨conj, disj, fun nanFree => ⟨conj _ (conjReturns_conj nanFree),
    disj _ (disjReturns_disj nanFree)⟩⟩

end Engine

/-- Where `a` has no value, `a && !a` fails and `a || !a` holds. -/
theorem evaluate_joins_of_complements :
    (∀ result, ConjReturns [has Facts.unresolved "a", lacks Facts.unresolved "a"] result →
      result.evaluate (fun _ => none) = false) ∧
    (∀ result, DisjReturns [has Facts.unresolved "a", lacks Facts.unresolved "a"] result →
      result.evaluate (fun _ => none) = true) ∧
    (conj [has Facts.unresolved "a", lacks Facts.unresolved "a"]).evaluate (fun _ => none) =
      false ∧
    (disj [has Facts.unresolved "a", lacks Facts.unresolved "a"]).evaluate (fun _ => none) =
      true := by
  have built : ∀ operand ∈ [has Facts.unresolved "a", lacks Facts.unresolved "a"],
      Built (fun _ => True) operand :=
    List.forall_mem_cons.mpr ⟨Built.ofTest trivial _ _,
      List.forall_mem_singleton.mpr (Built.ofTest trivial _ _)⟩
  obtain ⟨conj, disj, both⟩ := evaluate_joins built fun _ => none
  exact ⟨conj, disj, both (by decide)⟩

end WhenClause

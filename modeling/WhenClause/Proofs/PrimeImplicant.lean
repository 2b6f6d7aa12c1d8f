/-
**Prime implicants.**

An `Implicant` of an expression is a clause that is enough for the expression to hold, and a
`PrimeImplicant` is one that no longer is when a literal is left out. An expression is `Canonical`
if its clauses are its prime implicants.

* `Expression.Formed.canonical`: so it is for every canonical form without NaN;
* `built_canonical`: so it is for every built expression without NaN, and operations on such
  expressions end.
-/

import WhenClause.Proofs.Built
import WhenClause.Proofs.Saturation
import WhenClause.Regex.Engine

namespace WhenClause

open Clause (isSubset)
open Expression

section Engine

variable [PatternEngine]
variable {known : Facts → Prop} {expression other : Expression} {operands : List Expression}
  {clause kept : Clause}

/-! ### Implicants -/

/-- A clause that is enough for an expression to hold, whatever the truth values of its atoms. -/
structure Implicant (expression : Expression) (clause : Clause) : Prop where
  nanFree : clause.NaNFree
  consistent : clause.Consistent
  enough : ∀ assignment, clause.value assignment = true → expression.value assignment = true

/-- An implicant all of whose literals are needed. -/
structure PrimeImplicant (expression : Expression) (clause : Clause) : Prop
    extends Implicant expression clause where
  minimal : ∀ smaller, Implicant expression smaller → isSubset smaller clause = true →
    isSubset clause smaller = true

/-- Implicants depend on nothing but the value of an expression. -/
theorem Implicant.congr (implicant : Implicant expression clause)
    (equal : ∀ assignment, expression.value assignment = other.value assignment) :
    Implicant other clause :=
  ⟨implicant.nanFree, implicant.consistent, fun assignment holds =>
    (equal assignment).symm.trans (implicant.enough assignment holds)⟩

theorem PrimeImplicant.congr (prime : PrimeImplicant expression clause)
    (equal : ∀ assignment, expression.value assignment = other.value assignment) :
    PrimeImplicant other clause :=
  ⟨prime.toImplicant.congr equal, fun smaller implicant =>
    prime.minimal smaller (implicant.congr fun assignment => (equal assignment).symm)⟩

/-- Two clauses have the same literals. -/
def Clause.Same (left right : Clause) : Prop :=
  isSubset left right = true ∧ isSubset right left = true

/-- **Canonical expressions.** They are constant as written if they have a constant value, they list
each prime implicant once and nothing else, and an empty clause only by itself. -/
structure Expression.Canonical (expression : Expression) : Prop where
  never_iff : expression = never ↔ ∀ assignment, expression.value assignment = false
  always_iff : expression = always ↔ ∀ assignment, expression.value assignment = true
  prime : ∀ clause ∈ expression.clauses, PrimeImplicant expression clause
  listed : ∀ clause, PrimeImplicant expression clause →
    ∃ kept ∈ expression.clauses, kept.Same clause
  once : expression.clauses.Pairwise fun left right => ¬left.Same right
  alone : [] ∈ expression.clauses → expression = always

/-! ### Canonical forms list prime implicants -/

theorem Expression.Formed.saturated (formed : expression.Formed) (nanFree : expression.NaNFree) :
    Saturated expression.clauses := by
  obtain ⟨limit, clauses, consistent, run⟩ := formed
  exact saturated_ofClausesWithin consistent run nanFree

/-- No clause of a canonical form includes another one. -/
theorem Expression.Formed.apart (formed : expression.Formed) :
    expression.clauses.Pairwise fun left right =>
      isSubset left right = false ∧ isSubset right left = false := by
  obtain ⟨limit, clauses, consistent, run⟩ := formed
  obtain ⟨closed, closes, same⟩ := ofClausesWithin_eq_ok run
  rw [same]
  exact pairwise_minimal (consistent_closeWithin consistent closes)

theorem Expression.Formed.eq_of_isSubset (formed : expression.Formed)
    (inside : kept ∈ expression.clauses) (inside' : clause ∈ expression.clauses)
    (below : isSubset kept clause = true) : kept = clause := by
  by_cases one : kept = clause
  · exact one
  rcases rel_or_rel_of_ne formed.apart inside inside' one with apart | apart
  · rw [apart.1] at below
    cases below
  · rw [apart.2] at below
    cases below

/-- The clauses of a canonical form are implicants. -/
theorem Expression.Formed.implicant (formed : expression.Formed) (nanFree : expression.NaNFree)
    (inside : clause ∈ expression.clauses) : Implicant expression clause :=
  ⟨nanFree clause inside, formed.consistent clause inside, fun assignment holds =>
    (anyValue_eq_true assignment).mpr ⟨clause, inside, holds⟩⟩

/-- **Every implicant includes a clause of a canonical form.** -/
theorem Expression.Formed.exists_isSubset (formed : expression.Formed)
    (nanFree : expression.NaNFree) (implicant : Implicant expression clause) :
    ∃ kept ∈ expression.clauses, isSubset kept clause = true :=
  (formed.saturated nanFree).exists_isSubset implicant.consistent implicant.nanFree implicant.enough

/-- An empty clause includes nothing but itself, so it is alone. -/
theorem Expression.Formed.eq_always (formed : expression.Formed)
    (empty : [] ∈ expression.clauses) : expression = always := by
  obtain ⟨clauses⟩ := expression
  have apart := formed.apart
  obtain ⟨front, back, rfl⟩ := List.append_of_mem empty
  obtain ⟨-, rest, across⟩ := List.pairwise_append.mp apart
  have noFront : front = [] := by
    refine List.eq_nil_iff_forall_not_mem.mpr fun clause member => ?_
    have none := (across clause member [] List.mem_cons_self).2
    rw [Clause.isSubset_nil] at none
    cases none
  have noBack : back = [] := by
    refine List.eq_nil_iff_forall_not_mem.mpr fun clause member => ?_
    have none := ((List.pairwise_cons.mp rest).1 clause member).1
    rw [Clause.isSubset_nil] at none
    cases none
  rw [noFront, noBack]
  rfl

/-- **A canonical form without NaN is canonical.** -/
theorem Expression.Formed.canonical (formed : expression.Formed) (nanFree : expression.NaNFree) :
    expression.Canonical where
  never_iff := by
    constructor
    · rintro rfl assignment
      rfl
    · intro false'
      have none : expression.clauses = [] := by
        refine List.eq_nil_iff_forall_not_mem.mpr fun clause inside => ?_
        have implicant := formed.implicant nanFree inside
        have holds := implicant.enough clause.assignment
          (implicant.consistent.value_assignment implicant.nanFree)
        rw [false'] at holds
        cases holds
      exact congrArg Expression.mk none
  always_iff := by
    constructor
    · rintro rfl assignment
      rfl
    · intro true'
      have implicant : Implicant expression [] :=
        ⟨List.forall_mem_nil _, Clause.consistent_nil, fun assignment _ => true' assignment⟩
      obtain ⟨kept, inside, below⟩ := formed.exists_isSubset nanFree implicant
      cases kept with
      | nil => exact formed.eq_always inside
      | cons literal kept => cases below
  prime clause inside := by
    refine ⟨formed.implicant nanFree inside, fun smaller implicant below => ?_⟩
    obtain ⟨kept, inside', below'⟩ := formed.exists_isSubset nanFree implicant
    obtain rfl := formed.eq_of_isSubset inside' inside (Clause.isSubset_trans below' below)
    exact below'
  listed clause prime := by
    obtain ⟨kept, inside, below⟩ := formed.exists_isSubset nanFree prime.toImplicant
    exact ⟨kept, inside, below, prime.minimal kept (formed.implicant nanFree inside) below⟩
  once := by
    refine formed.apart.imp fun apart same => ?_
    have below := same.1
    rw [apart.1] at below
    cases below
  alone := formed.eq_always

/-! ### Built expressions -/

/-- **Built expressions without NaN are canonical, and operations on them end.** Joins of them
return; every one of them is canonical and its negation and renaming end, and so does the negation
of whatever a formula builds. -/
theorem built_canonical (built : ∀ operand ∈ operands, Built known operand)
    (nanFree : ∀ operand ∈ operands, operand.NaNFree) :
    ConjReturns operands (conj operands) ∧ DisjReturns operands (disj operands) ∧
      (∀ operand ∈ operands, operand.Canonical ∧ operand.NegationEnds ∧ operand.RenamingEnds) ∧
      ∀ facts limit text (formula : Grammar.Formula) body,
        formula.build facts limit text = .ok body → body.NegationEnds := by
  refine ⟨conjReturns_conj nanFree, disjReturns_disj nanFree, fun operand among => ?_,
    fun facts limit text formula body run => negationEnds (kept_nanFree.build formula run)⟩
  have free := nanFree operand among
  exact ⟨(built operand among).formed.canonical free, negationEnds free, renamingEnds free⟩

end Engine

/-- `a && b || !a && n < 10` is canonical, though `b && n < 10` is a prime implicant, too. -/
theorem choice_canonical :
    (disj [conj [has Facts.unresolved "a", has Facts.unresolved "b"],
      conj [lacks Facts.unresolved "a", compared "n" .less (.string "10")]]).Canonical := by
  have built : ∀ operand ∈ [conj [has Facts.unresolved "a", has Facts.unresolved "b"],
      conj [lacks Facts.unresolved "a", compared "n" .less (.string "10")]],
      Built (fun _ => True) operand := by
    refine List.forall_mem_cons.mpr ⟨Built.conj ?_, List.forall_mem_singleton.mpr (Built.conj ?_)⟩
    · exact List.forall_mem_cons.mpr ⟨Built.ofTest trivial _ _,
        List.forall_mem_singleton.mpr (Built.ofTest trivial _ _)⟩
    · exact List.forall_mem_cons.mpr ⟨Built.ofTest trivial _ _,
        List.forall_mem_singleton.mpr (Built.compared Facts.unresolved trivial _ _ _)⟩
  have nanFree : ∀ operand ∈ [conj [has Facts.unresolved "a", has Facts.unresolved "b"],
      conj [lacks Facts.unresolved "a", compared "n" .less (.string "10")]], operand.NaNFree :=
    List.forall_mem_cons.mpr ⟨kept_nanFree.conj (by decide),
      List.forall_mem_singleton.mpr (kept_nanFree.conj (by decide))⟩
  have whole := built_canonical (List.forall_mem_singleton.mpr (Built.disj built))
    (List.forall_mem_singleton.mpr (kept_nanFree.disj nanFree))
  exact (whole.2.2.1 _ (List.mem_singleton_self _)).1

end WhenClause

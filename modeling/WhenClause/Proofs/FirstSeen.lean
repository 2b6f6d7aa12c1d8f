/-
**The order of a disjunction.**

A disjunction lists the clauses of its operands where they are first seen, as far as they are prime
implicants of the whole (`FirstSeen`), and behind them the clauses that the closure has added.

* `firstSeen_minimalBehind`: absorption keeps among the first clauses exactly those, in their order. A
  clause that includes a shorter one is not prime, and one that includes an earlier one is not prime
  either, or has been seen before;
* `exists_ofClausesWithin_disj`: a disjunction is the canonical form of all clauses of its operands,
  also where one of them always holds and the others are not looked at;
* `disj_first_seen`: the order of what a disjunction lists.
-/

import WhenClause.Proofs.PrimeImplicant
import WhenClause.Regex.Engine

namespace WhenClause

open Clause (isSubset)
open Expression

section Engine

variable [PatternEngine]
variable {known : Facts → Prop} {expression : Expression} {operands : List Expression}
  {good : Clause → Prop} {clause : Clause} {clauses added before kept : List Clause}

/-! ### What is seen first -/

/-- The good clauses of a list where they are first seen, those `seen` before it counting as well. Of
clauses with the same literals the first one is kept, as it stands there. -/
inductive FirstSeen (good : Clause → Prop) : List Clause → List Clause → List Clause → Prop where
  | nil {seen : List Clause} : FirstSeen good seen [] []
  | keep {seen clauses kept : List Clause} {clause : Clause} (isGood : good clause)
      (unseen : ∀ earlier ∈ seen, ¬earlier.Same clause)
      (rest : FirstSeen good (clause :: seen) clauses kept) :
      FirstSeen good seen (clause :: clauses) (clause :: kept)
  | skip {seen clauses kept : List Clause} {clause : Clause}
      (other : good clause → ∃ earlier ∈ seen, earlier.Same clause)
      (rest : FirstSeen good (clause :: seen) clauses kept) :
      FirstSeen good seen (clause :: clauses) kept

/-! ### Absorption -/

/-- A clause that includes an implicant before it has been seen, if it is prime. -/
theorem PrimeImplicant.same (prime : PrimeImplicant expression clause) {earlier : Clause}
    (implicant : Implicant expression earlier) (below : isSubset earlier clause = true) :
    earlier.Same clause :=
  ⟨below, prime.minimal earlier implicant below⟩

/-- No prime implicant includes a shorter implicant. -/
theorem PrimeImplicant.length_le (prime : PrimeImplicant expression clause) {other : Clause}
    (implicant : Implicant expression other) (below : isSubset other clause = true) :
    clause.length ≤ other.length :=
  Clause.length_le_of_isSubset prime.consistent.distinct (prime.minimal other implicant below)

/-- **Absorption keeps what is seen first.** Of implicants whose minimal ones are prime it keeps the
prime ones where they are first seen; the induction is on the clauses in front of those added, and
what is before them has been seen. -/
theorem firstSeen_minimalBehind (clauses added : List Clause)
    (implicants : ∀ clause ∈ before ++ (clauses ++ added), Implicant expression clause)
    (primes : ∀ clause ∈ minimalBehind before (clauses ++ added), PrimeImplicant expression clause) :
    ∃ kept, minimalBehind before (clauses ++ added) =
        kept ++ minimalBehind (clauses.reverse ++ before) added ∧
      FirstSeen (PrimeImplicant expression) before clauses kept := by
  induction clauses generalizing before with
  | nil => exact ⟨[], rfl, .nil⟩
  | cons clause clauses ih =>
    have inside : ∀ other ∈ clause :: before ++ (clauses ++ added), Implicant expression other := by
      intro other member
      refine implicants other ?_
      simp only [List.mem_append, List.mem_cons, List.cons_append] at member ⊢
      tauto
    rw [List.cons_append, minimalBehind] at primes ⊢
    rw [List.reverse_cons, List.append_assoc, List.singleton_append]
    split at primes
    · rename_i absorbed
      obtain ⟨kept, same, firstSeen⟩ := ih inside primes
      refine ⟨kept, by rw [if_pos absorbed, same], .skip (fun prime => ?_) firstSeen⟩
      rcases Bool.or_eq_true_iff.mp absorbed with early | late
      · obtain ⟨earlier, among, below⟩ := List.any_eq_true.mp early
        exact ⟨earlier, among, prime.same (implicants earlier (List.mem_append_left _ among)) below⟩
      · obtain ⟨later, among, both⟩ := List.any_eq_true.mp late
        obtain ⟨below, shorter⟩ := Bool.and_eq_true_iff.mp both
        have long := prime.length_le
          (implicants later (List.mem_append_right _ (List.mem_cons_of_mem _ among))) below
        exact absurd (of_decide_eq_true shorter) (Nat.not_lt.mpr long)
    · rename_i apart
      obtain ⟨first, rest⟩ := List.forall_mem_cons.mp primes
      obtain ⟨kept, same, firstSeen⟩ := ih inside rest
      refine ⟨clause :: kept, by rw [if_neg apart, same, List.cons_append], .keep first ?_ firstSeen⟩
      intro earlier among seen
      exact apart (Bool.or_eq_true_iff.mpr (.inl (List.any_eq_true.mpr ⟨earlier, among, seen.1⟩)))

/-! ### Disjunctions -/

theorem Derived.implicant (consistent : ∀ clause ∈ clauses, clause.Consistent)
    (nanFree : ∀ clause ∈ clauses, clause.NaNFree) (derived : Derived clauses clause) :
    Implicant ⟨clauses⟩ clause := by
  refine ⟨fun literal member => ?_, derived.consistent consistent, fun _ => derived.anyValue⟩
  obtain ⟨given, among, inside⟩ := derived.exists_mem member
  exact nanFree given among literal inside

/-- A clause that is derived from others, and is the same as none of them, is a consensus. -/
theorem Derived.exists_consensus (derived : Derived clauses clause)
    (fresh : ∀ given ∈ clauses, given ≠ clause) :
    ∃ left right, Derived clauses left ∧ Derived clauses right ∧ left.consensus right = some clause := by
  cases derived with
  | given member => exact absurd rfl (fresh _ member)
  | consensus first second found => exact ⟨_, _, first, second, found⟩

theorem consistent_flatMap (built : ∀ operand ∈ operands, Built known operand) :
    ∀ clause ∈ operands.flatMap (·.clauses), clause.Consistent := by
  intro clause member
  obtain ⟨operand, among, inside⟩ := List.mem_flatMap.mp member
  exact (built operand among).formed.consistent clause inside

theorem nanFree_flatMap (nanFree : ∀ operand ∈ operands, operand.NaNFree) :
    ∀ clause ∈ operands.flatMap (·.clauses), clause.NaNFree := by
  intro clause member
  obtain ⟨operand, among, inside⟩ := List.mem_flatMap.mp member
  exact nanFree operand among clause inside

section Disjunction

variable (built : ∀ operand ∈ operands, Built known operand)
  (nanFree : ∀ operand ∈ operands, operand.NaNFree)

include built nanFree

/-- **A disjunction is the canonical form of all clauses of its operands.** Where one of the operands
always holds, the canonical form of all of them does, too. -/
theorem exists_ofClausesWithin_disj :
    ∃ limit, ofClausesWithin limit (operands.flatMap (·.clauses)) = .ok (disj operands) := by
  have consistent := consistent_flatMap built
  obtain ⟨outcome, gathers, joins⟩ :=
    bind_eq_ok.mp (disjWithin_eq_disj nanFree (Nat.le_refl (ceiling operands)))
  rcases gatherWithin_eq_ok gathers with ⟨rfl, holds⟩ | rfl
  · obtain ⟨result, run⟩ := ofClausesWithin_ends nanFree (fun clause inside literal member =>
      List.mem_flatten.mpr ⟨clause, inside, member⟩) (Nat.le_refl _)
    refine ⟨_, run.trans ?_⟩
    have formed : result.Formed := ⟨_, _, consistent, run⟩
    have free : result.NaNFree := fun clause inside literal member => by
      obtain ⟨given, among, inside'⟩ := mem_ofClausesWithin run inside member
      exact nanFree_flatMap nanFree given among literal inside'
    have true' : ∀ assignment, result.value assignment = true := by
      intro assignment
      rw [value_ofClausesWithin assignment consistent run]
      exact (anyValue_eq_true assignment).mpr
        ⟨[], List.mem_flatMap.mpr ⟨always, holds, List.mem_singleton_self _⟩, rfl⟩
    rw [(formed.canonical free).always_iff.mpr true', ← Except.ok.inj joins]
  · exact ⟨_, joins⟩

/-- **What a disjunction lists, and in which order.** It returns, and it lists first the clauses of the
operands that are prime implicants of the whole, each where it is first seen and with its literals in
the order that they have there, and behind them consensus clauses, which are the same as none of the
operands' clauses. -/
theorem disj_first_seen :
    DisjReturns operands (disj operands) ∧ ∃ kept added, (disj operands).clauses = kept ++ added ∧
      FirstSeen (PrimeImplicant ⟨operands.flatMap (·.clauses)⟩) [] (operands.flatMap (·.clauses))
        kept ∧
      ∀ clause ∈ added, (∀ given ∈ operands.flatMap (·.clauses), ¬given.Same clause) ∧
        ∃ left right, Derived (operands.flatMap (·.clauses)) left ∧
          Derived (operands.flatMap (·.clauses)) right ∧ left.consensus right = some clause := by
  have consistent := consistent_flatMap built
  have free := nanFree_flatMap nanFree
  obtain ⟨limit, run⟩ := exists_ofClausesWithin_disj built nanFree
  have canonical : (disj operands).Canonical :=
    (Built.disj built).formed.canonical (kept_nanFree.disj nanFree)
  have value := fun assignment => value_ofClausesWithin assignment consistent run
  obtain ⟨closed, closes, result⟩ := ofClausesWithin_eq_ok run
  have closing := closing_of_closeWithin closes
  obtain ⟨more, same, fresh⟩ := closing.extends'
  have derived := closing.derived
  rw [List.append_nil] at same derived
  generalize operands.flatMap (·.clauses) = clauses at *
  subst same
  have implicants : ∀ clause ∈ clauses ++ more, Implicant ⟨clauses⟩ clause :=
    fun clause member => (derived clause member).implicant consistent free
  have primes : ∀ clause ∈ minimal (clauses ++ more), PrimeImplicant ⟨clauses⟩ clause :=
    fun clause member => (canonical.prime clause (result ▸ member)).congr value
  obtain ⟨kept, split, firstSeen⟩ := firstSeen_minimalBehind clauses more implicants primes
  refine ⟨disjReturns_disj nanFree, kept, _, result.trans split, firstSeen, fun clause member => ?_⟩
  have among := (minimalBehind_sublist _ _).subset member
  have unseen := fresh.known clause among
  refine ⟨fun given inside seen => ?_, ?_⟩
  · have below := seen.1
    rw [unseen given inside] at below
    cases below
  · refine (derived clause (List.mem_append_right _ among)).exists_consensus ?_
    rintro given inside rfl
    have below := Clause.isSubset_refl (free given inside)
    rw [unseen given inside] at below
    cases below

end Disjunction

end Engine

/-- In `a && b || !a && c || b && a` the first two clauses are listed, and `b && c` behind them. -/
theorem disj_first_seen_choice :
    ∃ kept added, kept ++ added = [[.test (.has "a") true, .test (.has "b") true],
        [.test (.has "a") false, .test (.has "c") true],
        [.test (.has "b") true, .test (.has "c") true]] ∧
      FirstSeen (PrimeImplicant ⟨[[.test (.has "a") true, .test (.has "b") true],
          [.test (.has "a") false, .test (.has "c") true],
          [.test (.has "b") true, .test (.has "a") true]]⟩) []
        [[.test (.has "a") true, .test (.has "b") true],
          [.test (.has "a") false, .test (.has "c") true],
          [.test (.has "b") true, .test (.has "a") true]] kept := by
  have built : ∀ operand ∈ [conj [has none "a", has none "b"], conj [lacks none "a", has none "c"],
      conj [has none "b", has none "a"]], Built (fun _ => True) operand := by
    have tests : ∀ left right, Built (fun _ => True) left → Built (fun _ => True) right →
        Built (fun _ => True) (conj [left, right]) := fun left right first second =>
      Built.conj (List.forall_mem_cons.mpr ⟨first, List.forall_mem_singleton.mpr second⟩)
    simp only [List.forall_mem_cons]
    exact ⟨tests _ _ (.ofTest trivial _ _) (.ofTest trivial _ _),
      tests _ _ (.ofTest trivial _ _) (.ofTest trivial _ _),
      tests _ _ (.ofTest trivial _ _) (.ofTest trivial _ _), List.forall_mem_nil _⟩
  have nanFree : ∀ operand ∈ [conj [has none "a", has none "b"], conj [lacks none "a", has none "c"],
      conj [has none "b", has none "a"]], operand.NaNFree := by
    simp only [List.forall_mem_cons]
    exact ⟨kept_nanFree.conj (by decide), kept_nanFree.conj (by decide),
      kept_nanFree.conj (by decide), List.forall_mem_nil _⟩
  have given : [conj [has none "a", has none "b"], conj [lacks none "a", has none "c"],
      conj [has none "b", has none "a"]].flatMap (·.clauses) =
        [[.test (.has "a") true, .test (.has "b") true],
          [.test (.has "a") false, .test (.has "c") true],
          [.test (.has "b") true, .test (.has "a") true]] := by cbv
  have listed : (disj [conj [has none "a", has none "b"], conj [lacks none "a", has none "c"],
      conj [has none "b", has none "a"]]).clauses =
        [[.test (.has "a") true, .test (.has "b") true],
          [.test (.has "a") false, .test (.has "c") true],
          [.test (.has "b") true, .test (.has "c") true]] := by cbv
  obtain ⟨-, kept, added, split, firstSeen, -⟩ := disj_first_seen built nanFree
  rw [listed] at split
  rw [given] at firstSeen
  exact ⟨kept, added, split.symm, firstSeen⟩

end WhenClause

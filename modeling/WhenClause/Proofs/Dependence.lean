/-
**The keys that an expression depends on.**

The keys of an expression are those of its literals. Contexts that agree on them evaluate it alike,
and none of them is idle: every literal that a canonical form lists is needed by a prime implicant,
so somewhere the value changes when that literal changes, and nothing else does.

* `Expression.mem_keys`, `Expression.nodup_keys`: what `keys` lists;
* `evaluate_congr_keys`: nothing else decides the value in a context;
* `Assignment.turned`, `Literal.value_turned`: to turn the atom of a literal changes the value of
  the literals that share it;
* `PrimeImplicant.dependsOn`: an expression depends on each literal of a prime implicant, so
  canonical forms do on each of their literals (`Expression.Canonical.dependsOn`);
* `keys_exact`: together, for built expressions without NaN.
-/

import Mathlib.Data.List.Permutation
import WhenClause.Proofs.Negation
import WhenClause.Regex.Engine

namespace WhenClause

open Expression

/-! ### Adding keys -/

section Adding

variable {keys others : List String} {key other : String}

theorem mem_addKey : key ∈ addKey keys other ↔ key ∈ keys ∨ key = other := by
  by_cases known : keys.contains other = true
  · rw [addKey, if_pos known]
    refine ⟨Or.inl, ?_⟩
    rintro (among | rfl)
    · exact among
    · exact List.contains_iff_mem.mp known
  · rw [addKey, if_neg known, List.mem_append, List.mem_singleton]

theorem nodup_addKey (nodup : keys.Nodup) : (addKey keys key).Nodup := by
  by_cases known : keys.contains key = true
  · rwa [addKey, if_pos known]
  · rw [addKey, if_neg known, ← List.concat_eq_append]
    exact nodup.concat fun among => known (List.contains_iff_mem.mpr among)

theorem mem_foldl_addKey : key ∈ others.foldl addKey keys ↔ key ∈ keys ∨ key ∈ others := by
  induction others generalizing keys with
  | nil => simp
  | cons other others ih => rw [List.foldl_cons, ih, mem_addKey, List.mem_cons, or_assoc]

theorem nodup_foldl_addKey (nodup : keys.Nodup) : (others.foldl addKey keys).Nodup := by
  induction others generalizing keys with
  | nil => exact nodup
  | cons other others ih => exact ih (nodup_addKey nodup)

end Adding

section Engine

variable [PatternEngine]
variable {known : Facts → Prop} {expression : Expression} {clause : Clause}
  {literal other : Literal} {context context' : Context}

/-! ### Which keys are listed -/

section Listed

variable {keys others : List String} {key other : String}

/-- The keys of an expression are those of its literals. -/
theorem Expression.mem_keys :
    key ∈ expression.keys ↔
      ∃ clause ∈ expression.clauses, ∃ literal ∈ clause, key ∈ literal.keys := by
  rw [Expression.keys, mem_foldl_addKey, List.mem_flatMap]
  simp only [List.not_mem_nil, false_or, List.mem_flatten]
  constructor
  · rintro ⟨literal, ⟨clause, inside, member⟩, reads⟩
    exact ⟨clause, inside, literal, member, reads⟩
  · rintro ⟨clause, inside, literal, member, reads⟩
    exact ⟨literal, ⟨clause, inside, member⟩, reads⟩

theorem Expression.nodup_keys (expression : Expression) : expression.keys.Nodup :=
  nodup_foldl_addKey List.nodup_nil

end Listed

/-! ### Contexts that agree -/

theorem Test.evaluate_congr_keys {question : Test}
    (agree : ∀ key ∈ question.keys, context key = context' key) :
    question.evaluate context = question.evaluate context' := by
  cases question with
  | has key => rw [Test.evaluate, Test.evaluate, agree key List.mem_cons_self]
  | equals key value => rw [Test.evaluate, Test.evaluate, agree key List.mem_cons_self]
  | matching key pattern => rw [Test.evaluate, Test.evaluate, agree key List.mem_cons_self]
  | member key container =>
    rw [Test.evaluate, Test.evaluate, agree key List.mem_cons_self,
      agree container (List.mem_cons_of_mem _ List.mem_cons_self)]

/-- A literal reads nothing but its keys. -/
theorem Literal.evaluate_congr_keys (agree : ∀ key ∈ literal.keys, context key = context' key) :
    literal.evaluate context = literal.evaluate context' := by
  cases literal with
  | test question holds =>
    rw [Literal.evaluate, Literal.evaluate, Test.evaluate_congr_keys agree]
  | ordered key comparison bound =>
    rw [Literal.evaluate, Literal.evaluate, agree key List.mem_cons_self]

/-- **An expression reads nothing but its keys.** -/
theorem evaluate_congr_keys (agree : ∀ key ∈ expression.keys, context key = context' key) :
    expression.evaluate context = expression.evaluate context' := by
  refine any_all_congr_of_mem fun clause inside literal member => ?_
  exact Literal.evaluate_congr_keys fun key reads =>
    agree key (Expression.mem_keys.mpr ⟨clause, inside, literal, member, reads⟩)

/-! ### Turning an atom -/

/-- Whether two literals have one atom: they are the same or complements. A comparison and its
opposite are two atoms. -/
def Literal.sharesAtom (left right : Literal) : Bool := left == right || left.isComplement right

theorem Literal.sharesAtom_congr_right {right right' : Literal} (same : (right == right') = true) :
    literal.sharesAtom right = literal.sharesAtom right' := by
  rw [sharesAtom, sharesAtom, BEq.congr_right same, isComplement_congr_right same]

theorem Literal.sharesAtom_test (question : Test) (holds : Bool) :
    literal.sharesAtom (.test question holds) = literal.sharesAtom (.test question true) := by
  cases literal with
  | test question' holds' =>
    simp only [sharesAtom, isComplement, test_beq]
    cases question' == question <;> cases holds <;> cases holds' <;> rfl
  | ordered key comparison bound => rfl

theorem Test.keys_of_beq {left right : Test} (same : (left == right) = true) :
    left.keys = right.keys := by
  rcases (Test.beq_iff _ _).mp same with ⟨rfl, -⟩ | ⟨key, value, value', rfl, rfl, -⟩
  · rfl
  · rfl

/-- Literals of one atom have the same keys. -/
theorem Literal.keys_of_sharesAtom (shares : literal.sharesAtom other = true) :
    literal.keys = other.keys := by
  rw [sharesAtom, Bool.or_eq_true] at shares
  rcases shares with same | complement
  · cases literal <;> cases other <;> simp at same
    · exact Test.keys_of_beq same.1
    · rw [keys, keys, same.1.1]
  · obtain ⟨question, question', holds, rfl, rfl, same⟩ := (isComplement_iff _ _).mp complement
    exact Test.keys_of_beq same

/-- The assignment that differs in the atom of a literal, and nowhere else. -/
def Assignment.turned (assignment : Assignment) (literal : Literal) : Assignment where
  answer question := assignment.answer question ^^ literal.sharesAtom (.test question true)
  compare key comparison bound :=
    assignment.compare key comparison bound ^^ literal.sharesAtom (.ordered key comparison bound)
  answer_congr {left right} same := by
    have literals : (Literal.test left true == .test right true) = true := by simpa using same
    rw [assignment.answer_congr same, Literal.sharesAtom_congr_right literals]
  compare_congr key comparison bound bound' same := by
    have literals : (Literal.ordered key comparison bound == .ordered key comparison bound') =
        true := by simpa using same
    rw [assignment.compare_congr key comparison same, Literal.sharesAtom_congr_right literals]

/-- **Turning an atom turns the literals that share it.** -/
theorem Literal.value_turned (assignment : Assignment) :
    other.value (assignment.turned literal) =
      (other.value assignment ^^ literal.sharesAtom other) := by
  cases other with
  | test question holds =>
    rw [sharesAtom_test]
    show ((assignment.answer question ^^ _) == holds) = ((assignment.answer question == holds) ^^ _)
    cases assignment.answer question <;> cases holds <;> simp
  | ordered key comparison bound => rfl

/-! ### Dependence -/

/-- Somewhere the value changes when the atom of a literal does. -/
def Expression.DependsOn (expression : Expression) (literal : Literal) : Prop :=
  ∃ assignment : Assignment,
    expression.value (assignment.turned literal) ≠ expression.value assignment

/-- An expression depends on nothing but the atoms of its literals. -/
theorem Expression.DependsOn.exists_sharesAtom (depends : expression.DependsOn literal) :
    ∃ clause ∈ expression.clauses, ∃ member ∈ clause, literal.sharesAtom member = true := by
  obtain ⟨assignment, changes⟩ := depends
  by_contra none
  push Not at none
  refine changes (any_all_congr_of_mem fun clause inside member among => ?_)
  rw [Literal.value_turned, Bool.eq_false_iff.mpr (none clause inside member among), Bool.xor_false]

/-- A clause keeps its value if none of its literals shares the atom. -/
theorem Clause.value_turned (assignment : Assignment)
    (apart : ∀ other ∈ clause, literal.sharesAtom other = false) :
    clause.value (assignment.turned literal) = clause.value assignment :=
  all_congr_of_mem fun other among => by
    rw [Literal.value_turned, apart other among, Bool.xor_false]

section Needed

variable {front back : Clause}

/-- In a consistent clause no two literals share an atom. -/
theorem Clause.Consistent.sharesAtom_eq_false
    (consistent : Clause.Consistent (front ++ literal :: back)) :
    ∀ other ∈ front ++ back, literal.sharesAtom other = false := by
  have moved : Clause.Consistent (literal :: (front ++ back)) := by
    refine (List.pairwise_middle fun {left right} apart => ?_).mp consistent
    rwa [BEq.comm, Literal.isComplement_comm]
  intro other among
  obtain ⟨differ, apart⟩ := (List.pairwise_cons.mp moved).1 other among
  rw [Literal.sharesAtom, differ, apart, Bool.or_false]

/-- Without one of its literals a prime implicant is not enough: the expression can fail where the
others hold. -/
theorem PrimeImplicant.exists_value (prime : PrimeImplicant expression (front ++ literal :: back)) :
    ∃ assignment, Clause.value assignment (front ++ back) = true ∧
      expression.value assignment = false := by
  have sublist : (front ++ back).Sublist (front ++ literal :: back) :=
    (List.sublist_cons_self literal back).append_left front
  have nanFree : Clause.NaNFree (front ++ back) := fun other among =>
    prime.nanFree other (sublist.subset among)
  by_contra none
  push Not at none
  have implicant : Implicant expression (front ++ back) :=
    ⟨nanFree, prime.consistent.sublist sublist, fun assignment holds => by
      simpa using none assignment holds⟩
  have whole := prime.minimal _ implicant (Clause.isSubset_of_subset nanFree sublist.subset)
  obtain ⟨other, among, same⟩ := List.contains_iff_exists_mem_beq.mp
    (Clause.isSubset_iff.mp whole literal (List.mem_append_right front List.mem_cons_self))
  have differ := prime.consistent.sharesAtom_eq_false other among
  rw [Literal.sharesAtom, same] at differ
  cases differ

/-- **An expression depends on each literal of a prime implicant.** Where it fails while the others
hold, it holds once the literal is turned, as none of the others shares its atom. -/
theorem PrimeImplicant.dependsOn (prime : PrimeImplicant expression (front ++ literal :: back)) :
    expression.DependsOn literal := by
  have parts : ∀ assignment, Clause.value assignment (front ++ literal :: back) =
      (literal.value assignment && Clause.value assignment (front ++ back)) := fun assignment => by
    simp [Bool.and_left_comm]
  have self : literal.sharesAtom literal = true := by
    have notNaN := prime.nanFree literal (List.mem_append_right front List.mem_cons_self)
    rw [Literal.sharesAtom, literal.beq_self_iff.mpr notNaN, Bool.true_or]
  obtain ⟨assignment, others, fails⟩ := prime.exists_value
  have literalFails : literal.value assignment = false := by
    by_contra holds
    have whole := prime.enough assignment (by simpa [parts, others] using holds)
    rw [fails] at whole
    cases whole
  have holds : expression.value (assignment.turned literal) = true := by
    refine prime.enough _ ?_
    rw [parts, Clause.value_turned assignment prime.consistent.sharesAtom_eq_false, others,
      Literal.value_turned, literalFails, self]
    rfl
  exact ⟨assignment, by simp [holds, fails]⟩

end Needed

/-- **Canonical forms depend on each of their literals.** -/
theorem Expression.Canonical.dependsOn (canonical : expression.Canonical)
    (inside : clause ∈ expression.clauses) (member : literal ∈ clause) :
    expression.DependsOn literal := by
  obtain ⟨front, back, rfl⟩ := List.append_of_mem member
  exact (canonical.prime _ inside).dependsOn

/-! ### Exact keys -/

/-- **The keys of an expression are exact.** A built expression without NaN evaluates alike in
contexts that agree on its keys, lists no key twice, depends on each of its literals, and lists the
keys of all that it depends on and no others. -/
theorem keys_exact (built : Built known expression) (nanFree : expression.NaNFree) :
    (∀ context context' : Context, (∀ key ∈ expression.keys, context key = context' key) →
      expression.evaluate context = expression.evaluate context') ∧
    expression.keys.Nodup ∧
    (∀ clause ∈ expression.clauses, ∀ literal ∈ clause, expression.DependsOn literal) ∧
    ∀ key, key ∈ expression.keys ↔
      ∃ literal : Literal, expression.DependsOn literal ∧ key ∈ literal.keys := by
  have depends : ∀ clause ∈ expression.clauses, ∀ literal ∈ clause, expression.DependsOn literal :=
    fun clause inside literal member =>
      (built.formed.canonical nanFree).dependsOn inside member
  refine ⟨fun _ _ agree => evaluate_congr_keys agree, expression.nodup_keys, depends, fun key => ?_⟩
  constructor
  · intro listed
    obtain ⟨clause, inside, literal, member, reads⟩ := Expression.mem_keys.mp listed
    exact ⟨literal, depends clause inside literal member, reads⟩
  · rintro ⟨literal, depends, reads⟩
    obtain ⟨clause, inside, member, among, shares⟩ := depends.exists_sharesAtom
    rw [Literal.keys_of_sharesAtom shares] at reads
    exact Expression.mem_keys.mpr ⟨clause, inside, member, among, reads⟩

end Engine

/-- `(a || b) && (a || !b)` has the only key `a`, and nothing else decides it. -/
theorem keys_exact_choice :
    (conj [disj [has none "a", has none "b"], disj [has none "a", lacks none "b"]]).keys = ["a"] ∧
      ∀ context context' : Context, context "a" = context' "a" →
        (conj [disj [has none "a", has none "b"], disj [has none "a", lacks none "b"]]).evaluate
          context =
        (conj [disj [has none "a", has none "b"], disj [has none "a", lacks none "b"]]).evaluate
          context' := by
  have key : ∀ name, Built (· = none) (has none name) := fun _ =>
    @Built.ofTest _ (· = none) none rfl _ _
  have noKey : ∀ name, Built (· = none) (lacks none name) := fun _ =>
    @Built.ofTest _ (· = none) none rfl _ _
  have built := Built.conj (forall_mem_pair
    (Built.disj (forall_mem_pair (key "a") (key "b")))
    (Built.disj (forall_mem_pair (key "a") (noKey "b"))))
  have left : ∀ operand ∈ [has none "a", has none "b"], operand.NaNFree := by decide
  have right : ∀ operand ∈ [has none "a", lacks none "b"], operand.NaNFree := by decide
  have nanFree := kept_nanFree.conj
    (forall_mem_pair (kept_nanFree.disj left) (kept_nanFree.disj right))
  have keys : (conj [disj [has none "a", has none "b"],
      disj [has none "a", lacks none "b"]]).keys = ["a"] := by cbv
  refine ⟨keys, fun context context' agree => (keys_exact built nanFree).1 context context' ?_⟩
  rw [keys]
  exact List.forall_mem_singleton.mpr agree

end WhenClause

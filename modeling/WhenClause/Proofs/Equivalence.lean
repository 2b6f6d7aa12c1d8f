/-
**Deciding equivalence and implication.**

On canonical forms without NaN the comparisons of clauses decide what the expressions mean.

* `sameMembers_iff`: lists whose members are matched at most once pair off if each is matched;
* `beq_iff_same`: so equality compares clauses as sets of literals and expressions as sets of clauses;
* `beq_iff_value_eq`: it holds exactly of expressions that have one value under every assignment;
* `implies_iff_value`: implication holds exactly if the other side is true wherever the one side is.
-/

import WhenClause.Proofs.PrimeImplicant
import WhenClause.Regex.Engine

namespace WhenClause

open Clause (isSubset)
open Expression

/-! ### Pairing off -/

section Pairing

variable {α : Type} {same : α → α → Bool} {members others : List α}

/-- **Lists whose members are matched at most once pair off if each member is matched.** -/
theorem sameMembers_iff
    (single : others.Pairwise fun first second => ∀ member ∈ members,
      same member first = true → same member second = false)
    (single' : members.Pairwise fun first second => ∀ other ∈ others,
      same first other = true → same second other = false) :
    sameMembers same members others = true ↔
      (∀ member ∈ members, ∃ other ∈ others, same member other = true) ∧
        ∀ other ∈ others, ∃ member ∈ members, same member other = true := by
  induction members generalizing others with
  | nil =>
    rw [sameMembers, List.isEmpty_iff]
    constructor
    · rintro rfl
      exact ⟨nofun, nofun⟩
    · rintro ⟨-, matched⟩
      refine List.eq_nil_iff_forall_not_mem.mpr fun other inside => ?_
      obtain ⟨_, absent, -⟩ := matched other inside
      cases absent
  | cons member members ih =>
    rw [sameMembers, Bool.and_eq_true, List.any_eq_true]
    obtain ⟨rivals, single''⟩ := List.pairwise_cons.mp single'
    by_cases matched : ∃ other ∈ others, same member other = true
    swap
    · exact ⟨fun both => absurd both.1 matched,
        fun all => absurd (all.1 member List.mem_cons_self) matched⟩
    -- nothing that is left matches the member, and no other member matches what is taken
    obtain ⟨_, inside, holds⟩ := matched
    obtain ⟨first, front, back, before, taken, rfl, rest⟩ := List.exists_of_eraseP inside holds
    obtain ⟨-, behind, -⟩ := List.pairwise_append.mp single
    have left' : ∀ other ∈ front ++ back, same member other = false := by
      intro other among
      rcases List.mem_append.mp among with among | among
      · simpa using before other among
      · exact (List.pairwise_cons.mp behind).1 other among member List.mem_cons_self taken
    have free : ∀ rival ∈ members, same rival first = false := fun rival among =>
      rivals rival among first (by simp) taken
    have places : ∀ other,
        other ∈ front ++ first :: back ↔ other = first ∨ other ∈ front ++ back := by
      intro other
      simp only [List.mem_append, List.mem_cons]
      exact or_left_comm
    have smaller : (front ++ back).Sublist (front ++ first :: back) :=
      List.Sublist.append_left (List.sublist_cons_self first back) front
    rw [rest, ih ((single.sublist smaller).imp fun once rival among =>
        once rival (List.mem_cons_of_mem _ among))
      (single''.imp fun once other among => once other (smaller.subset among))]
    constructor
    · rintro ⟨-, matched, matched'⟩
      refine ⟨List.forall_mem_cons.mpr ⟨⟨first, by simp, taken⟩, fun rival among => ?_⟩, ?_⟩
      · obtain ⟨other, inside, pair⟩ := matched rival among
        exact ⟨other, smaller.subset inside, pair⟩
      · intro other inside
        rcases (places other).mp inside with rfl | inside
        · exact ⟨member, List.mem_cons_self, taken⟩
        · obtain ⟨rival, among, pair⟩ := matched' other inside
          exact ⟨rival, List.mem_cons_of_mem _ among, pair⟩
    · rintro ⟨matched, matched'⟩
      refine ⟨⟨first, by simp, taken⟩, fun rival among => ?_, fun other inside => ?_⟩
      · obtain ⟨other, inside, pair⟩ := matched rival (List.mem_cons_of_mem _ among)
        rcases (places other).mp inside with rfl | inside
        · rw [free rival among] at pair
          cases pair
        · exact ⟨other, inside, pair⟩
      · obtain ⟨rival, among, pair⟩ := matched' other (smaller.subset inside)
        rcases List.mem_cons.mp among with rfl | among
        · rw [left' other inside] at pair
          cases pair
        · exact ⟨rival, among, pair⟩

end Pairing

section Equality

variable [PatternEngine] {known : Facts → Prop} {left right : Expression} {clause other : Clause}

/-- Consistent clauses pair off exactly if they have the same literals. -/
theorem sameMembers_iff_same (consistent : clause.Consistent) (consistent' : other.Consistent) :
    sameMembers (· == ·) clause other = true ↔ clause.Same other := by
  have once : ∀ {clause other : Clause}, clause.Consistent →
      clause.Pairwise fun first second => ∀ literal ∈ other,
        (literal == first) = true → (literal == second) = false := by
    intro clause other consistent
    refine consistent.distinct.imp fun {first second} differ literal _ same => ?_
    rw [Bool.eq_false_iff]
    intro same'
    rw [BEq.trans (BEq.symm same) same'] at differ
    cases differ
  have once' : clause.Pairwise fun first second => ∀ literal ∈ other,
      (first == literal) = true → (second == literal) = false :=
    (once consistent).imp fun {first second} once literal among same => by
      rw [BEq.comm] at same ⊢
      exact once literal among same
  rw [sameMembers_iff (once consistent') once', Clause.Same, Clause.isSubset_iff,
    Clause.isSubset_iff]
  refine and_congr (forall₂_congr fun literal _ => List.contains_iff_exists_mem_beq.symm)
    (forall₂_congr fun literal _ => ?_)
  rw [List.contains_iff_exists_mem_beq]
  exact exists_congr fun partner => and_congr_right fun _ => by rw [BEq.comm]

/-! ### Equality -/

theorem Clause.Same.symm (same : clause.Same other) : other.Same clause := ⟨same.2, same.1⟩

theorem Clause.Same.value (same : clause.Same other) {assignment : Assignment}
    (holds : clause.value assignment = true) : other.value assignment = true :=
  Clause.value_of_isSubset same.2 holds

/-- A clause has the same literals as at most one clause of a canonical form. -/
theorem Expression.Formed.once (formed : left.Formed) :
    left.clauses.Pairwise fun first second => ∀ clause : Clause, clause.Same first →
      ¬clause.Same second := by
  refine formed.apart.imp fun {first second} apart clause same same' => ?_
  rw [Clause.isSubset_trans same.2 same'.1] at apart
  cases apart.1

/-- **Canonical forms are equal exactly if each clause of either has its like in the other.** -/
theorem beq_iff_same (formed : left.Formed) (formed' : right.Formed) :
    (left == right) = true ↔
      (∀ clause ∈ left.clauses, ∃ other ∈ right.clauses, clause.Same other) ∧
        ∀ other ∈ right.clauses, ∃ clause ∈ left.clauses, clause.Same other := by
  have pair : ∀ clause ∈ left.clauses, ∀ other ∈ right.clauses,
      (sameMembers (· == ·) clause other = true ↔ clause.Same other) :=
    fun clause inside other inside' =>
      sameMembers_iff_same (formed.consistent clause inside) (formed'.consistent other inside')
  show sameMembers (sameMembers (· == ·)) left.clauses right.clauses = true ↔ _
  rw [sameMembers_iff]
  · refine and_congr (forall₂_congr fun clause inside => exists_congr fun other =>
      and_congr_right fun inside' => pair clause inside other inside')
      (forall₂_congr fun other inside' => exists_congr fun clause =>
        and_congr_right fun inside => pair clause inside other inside')
  · refine formed'.once.imp_of_mem fun {first second} inside inside' once clause among same => ?_
    rw [Bool.eq_false_iff]
    exact fun same' => once clause ((pair clause among first inside).mp same)
      ((pair clause among second inside').mp same')
  · refine formed.once.imp_of_mem fun {first second} inside inside' once other among same => ?_
    rw [Bool.eq_false_iff]
    exact fun same' => once other ((pair first inside other among).mp same).symm
      ((pair second inside' other among).mp same').symm

/-- Equal canonical forms have one value. -/
theorem value_eq_of_beq (formed : left.Formed) (formed' : right.Formed)
    (equal : (left == right) = true) (assignment : Assignment) :
    left.value assignment = right.value assignment := by
  obtain ⟨matched, matched'⟩ := (beq_iff_same formed formed').mp equal
  rw [Bool.eq_iff_iff, Expression.value, Expression.value, anyValue_eq_true, anyValue_eq_true]
  constructor
  · rintro ⟨clause, inside, holds⟩
    obtain ⟨other, inside', same⟩ := matched clause inside
    exact ⟨other, inside', same.value holds⟩
  · rintro ⟨other, inside', holds⟩
    obtain ⟨clause, inside, same⟩ := matched' other inside'
    exact ⟨clause, inside, same.symm.value holds⟩

/-- Canonical forms that have one value, and no NaN, are equal: they have the same prime
implicants. -/
theorem beq_of_value_eq (formed : left.Formed) (formed' : right.Formed) (nanFree : left.NaNFree)
    (nanFree' : right.NaNFree)
    (equal : ∀ assignment, left.value assignment = right.value assignment) :
    (left == right) = true := by
  have canonical := formed.canonical nanFree
  have canonical' := formed'.canonical nanFree'
  refine (beq_iff_same formed formed').mpr ⟨fun clause inside => ?_, fun other inside' => ?_⟩
  · obtain ⟨kept, among, same⟩ :=
      canonical'.listed clause ((canonical.prime clause inside).congr equal)
    exact ⟨kept, among, same.symm⟩
  · exact canonical.listed other
      ((canonical'.prime other inside').congr fun assignment => (equal assignment).symm)

/-- **Equality decides equivalence.** Two built expressions without NaN are equal exactly if they
have the same truth value under every assignment. -/
theorem beq_iff_value_eq (built : Built known left) (built' : Built known right)
    (nanFree : left.NaNFree) (nanFree' : right.NaNFree) :
    (left == right) = true ↔ ∀ assignment, left.value assignment = right.value assignment :=
  ⟨value_eq_of_beq built.formed built'.formed,
    beq_of_value_eq built.formed built'.formed nanFree nanFree'⟩

end Equality

/-- `a || !a` is `true`. -/
theorem excluded_middle_eq_always :
    (disj [has Facts.unresolved "a", lacks Facts.unresolved "a"] == always) = true := by
  have built : ∀ operand ∈ [has Facts.unresolved "a", lacks Facts.unresolved "a"],
      Built (fun _ => True) operand :=
    List.forall_mem_cons.mpr ⟨Built.ofTest trivial _ _,
      List.forall_mem_singleton.mpr (Built.ofTest trivial _ _)⟩
  have nanFree : ∀ operand ∈ [has Facts.unresolved "a", lacks Facts.unresolved "a"],
      operand.NaNFree := by decide
  refine (beq_iff_value_eq (Built.disj built) (Built.constant true) (kept_nanFree.disj nanFree)
    (nanFree_ofBool true)).mpr fun assignment => ?_
  obtain ⟨limit, run⟩ := disjReturns_disj nanFree
  have consistent : ∀ operand ∈ [has Facts.unresolved "a", lacks Facts.unresolved "a"],
      ∀ clause ∈ operand.clauses, clause.Consistent :=
    fun operand among => (built operand among).formed.consistent
  rw [value_disjWithin assignment consistent run]
  cases answer : assignment.answer (.has "a") <;>
    simp [has, lacks, ofTest, single, ofClause, ofBool, always, Expression.value, Literal.value,
      answer]

/-! ### Implication -/

section Implication

variable [PatternEngine] {known : Facts → Prop} {stronger weaker : Expression}

/-- An implication is true wherever it is found to hold. -/
theorem value_of_implies (implied : stronger.implies weaker = true) (assignment : Assignment)
    (holds : stronger.value assignment = true) : weaker.value assignment = true := by
  obtain ⟨clause, inside, holds⟩ := (anyValue_eq_true assignment).mp holds
  obtain ⟨other, among, below⟩ :=
    List.any_eq_true.mp (List.all_eq_true.mp implied clause inside)
  exact (anyValue_eq_true assignment).mpr ⟨other, among, Clause.value_of_isSubset below holds⟩

/-- An implication between canonical forms without NaN is found to hold if it is true: the clauses
of the first are implicants of the second, so they include its clauses. -/
theorem implies_of_value (formed : stronger.Formed) (formed' : weaker.Formed)
    (nanFree : stronger.NaNFree) (nanFree' : weaker.NaNFree)
    (true' : ∀ assignment, stronger.value assignment = true → weaker.value assignment = true) :
    stronger.implies weaker = true := by
  refine List.all_eq_true.mpr fun clause inside => List.any_eq_true.mpr ?_
  have implicant := formed.implicant nanFree inside
  exact formed'.exists_isSubset nanFree' ⟨implicant.nanFree, implicant.consistent,
    fun assignment holds => true' assignment (implicant.enough assignment holds)⟩

/-- **Inclusion between clauses decides implication.** Of two built expressions without NaN one
implies the other exactly if the other is true under every assignment under which it is, and then
also in every context. -/
theorem implies_iff_value (built : Built known stronger) (built' : Built known weaker)
    (nanFree : stronger.NaNFree) (nanFree' : weaker.NaNFree) :
    (stronger.implies weaker = true ↔
      ∀ assignment, stronger.value assignment = true → weaker.value assignment = true) ∧
    (stronger.implies weaker = true → ∀ context,
      stronger.evaluate context = true → weaker.evaluate context = true) := by
  refine ⟨⟨value_of_implies, implies_of_value built.formed built'.formed nanFree nanFree'⟩,
    fun implied context holds => ?_⟩
  rw [← Expression.value_assignment] at holds ⊢
  exact value_of_implies implied context.assignment holds

end Implication

/-- `a && n < 10` implies `a`. -/
theorem bounded_key_implies_key :
    (conj [has Facts.unresolved "a", compared "n" .less (.string "10")]).implies
      (has Facts.unresolved "a") = true := by
  have key : Built (fun _ => True) (has Facts.unresolved "a") := Built.ofTest trivial _ _
  have built : ∀ operand ∈ [has Facts.unresolved "a", compared "n" .less (.string "10")],
      Built (fun _ => True) operand :=
    List.forall_mem_cons.mpr ⟨key, List.forall_mem_singleton.mpr
      (Built.compared Facts.unresolved trivial _ _ _)⟩
  have nanFree : ∀ operand ∈ [has Facts.unresolved "a", compared "n" .less (.string "10")],
      operand.NaNFree := by decide
  obtain ⟨limit, run⟩ := conjReturns_conj nanFree
  refine (implies_iff_value (Built.conj built) key (kept_nanFree.conj nanFree)
    (nanFree _ List.mem_cons_self)).1.mpr fun assignment holds => ?_
  rw [value_conjWithin assignment run, List.all_eq_true] at holds
  exact holds _ List.mem_cons_self

end WhenClause

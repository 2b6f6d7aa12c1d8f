/-
**What a consensus holds.**

The consensus of two consistent clauses as the program builds it, clause by clause: when there is
one, and which literals it lists, in which order.

* `Clause.isSome_consensus_iff`: there is one if and only if one literal of the first clause, and no
  other, has its complement in the second;
* `Clause.Opposed.resolvent_eq`: it lists what is left of the first clause, and behind it what is
  left of the second one, except for literals that the first one has too;
* `Clause.consensus_of_consistent`: so much, and what was known of it: it is consistent, and true
  only where one of the two clauses is.
-/

import Mathlib.Logic.ExistsUnique
import WhenClause.Proofs.Consensus
import WhenClause.Regex.Engine

namespace WhenClause.Clause

section Engine

variable [PatternEngine]
variable {left right clause literals : Clause} {literal pivot partner : Literal}

/-! ### Whether there is one -/

theorem not_mem_unopposed {other : Literal} (inside : other ∈ right)
    (complement : literal.isComplement other = true) : literal ∉ unopposed left right := by
  intro rest
  rw [(mem_unopposed.mp rest).2 other inside] at complement
  cases complement

/-- A literal is unopposed unless its complement is found. -/
theorem mem_unopposed_of_not_any (inside : literal ∈ left)
    (alone : ¬right.any literal.isComplement = true) : literal ∈ unopposed left right :=
  List.mem_filter.mpr ⟨inside, by simpa using alone⟩

/-- In opposed clauses no literal but the pivot has its complement on the other side. -/
theorem Opposed.existsUnique (opposed : Opposed left right pivot partner) :
    ∃! pivot, pivot ∈ left ∧ right.any pivot.isComplement = true := by
  refine ⟨pivot, ⟨opposed.pivot_mem, ?_⟩, fun literal ⟨inside, met⟩ => ?_⟩
  · exact List.any_eq_true.mpr ⟨partner, opposed.partner_mem, opposed.complement⟩
  · obtain ⟨other, among, complement⟩ := List.any_eq_true.mp met
    exact (opposed.left_rest literal inside).resolve_right (not_mem_unopposed among complement)

/-- One literal with its complement on the other side makes an opposition in one pair: the second
clause lists the complement only once. -/
theorem exists_opposed_of_existsUnique (consistent' : right.Consistent)
    (one : ∃! pivot, pivot ∈ left ∧ right.any pivot.isComplement = true) :
    ∃ pivot partner, Opposed left right pivot partner := by
  obtain ⟨pivot, ⟨pivot_mem, met⟩, unique⟩ := one
  obtain ⟨partner, partner_mem, complement⟩ := List.any_eq_true.mp met
  refine ⟨pivot, partner, complement, pivot_mem, partner_mem, fun literal inside => ?_,
    fun literal inside => ?_⟩
  · by_cases met : right.any literal.isComplement = true
    · exact .inl (unique literal ⟨inside, met⟩)
    · exact .inr (mem_unopposed_of_not_any inside met)
  · by_cases met : left.any literal.isComplement = true
    · -- the complement of this literal is the pivot too, so the literal is the partner
      obtain ⟨other, among, complement'⟩ := List.any_eq_true.mp met
      have met' : right.any other.isComplement = true := by
        refine List.any_eq_true.mpr ⟨literal, inside, ?_⟩
        rw [Literal.isComplement_comm]
        exact complement'
      rw [unique other ⟨among, met'⟩] at complement'
      rw [Literal.isComplement_comm] at complement
      exact .inl (consistent'.eq_of_beq inside partner_mem
        (Literal.beq_of_isComplement complement' complement))
    · exact .inr (mem_unopposed_of_not_any inside met)

/-- **Consistent clauses have a consensus if and only if one literal, and no other, has its
complement on the other side.** -/
theorem isSome_consensus_iff (consistent : left.Consistent) (consistent' : right.Consistent) :
    (left.consensus right).isSome = true ↔
      ∃! pivot, pivot ∈ left ∧ right.any pivot.isComplement = true := by
  constructor
  · intro some'
    obtain ⟨resolvent, found⟩ := Option.isSome_iff_exists.mp some'
    obtain ⟨⟨_, _, opposed⟩, -⟩ := consensus_eq_some found
    exact opposed.existsUnique
  · intro one
    obtain ⟨_, _, opposed⟩ := exists_opposed_of_existsUnique consistent' one
    rw [consensus_eq, if_pos (opposed.opposition_eq_one consistent consistent')]
    rfl

/-! ### What it lists -/

/-- In a consistent clause the literals other than one that it has are those not the same as it. -/
theorem Consistent.bne_eq_true_iff (consistent : clause.Consistent) (among : pivot ∈ clause)
    (same : (pivot == pivot) = true) (inside : literal ∈ clause) :
    (literal != pivot) = true ↔ literal ≠ pivot := by
  rw [bne, Bool.not_eq_true', Bool.eq_false_iff]
  refine not_congr ⟨consistent.eq_of_beq inside among, ?_⟩
  rintro rfl
  exact same

/-- Of opposed clauses the first one keeps everything but the pivot. -/
theorem Opposed.unopposed_left (opposed : Opposed left right pivot partner)
    (consistent : left.Consistent) : unopposed left right = left.filter (· != pivot) := by
  refine List.filter_congr fun literal inside => Bool.eq_iff_iff.mpr ?_
  rw [consistent.bne_eq_true_iff opposed.pivot_mem opposed.pivot_beq_self inside]
  constructor
  · rintro alone rfl
    exact not_mem_unopposed opposed.partner_mem opposed.complement
      (List.mem_filter.mpr ⟨inside, alone⟩)
  · intro other
    exact (List.mem_filter.mp ((opposed.left_rest literal inside).resolve_left other)).2

/-- Adding different literals appends those that are not there. -/
theorem foldl_add_eq (distinct : literals.Pairwise fun left right => (left == right) = false) :
    literals.foldl add clause = clause ++ literals.filter (!clause.contains ·) := by
  induction literals generalizing clause with
  | nil => simp
  | cons literal literals ih =>
    obtain ⟨fresh, distinct⟩ := List.pairwise_cons.mp distinct
    rw [List.foldl_cons, ih distinct, add]
    cases known : clause.contains literal with
    | true => simp [known]
    | false =>
      have others : literals.filter (!(clause ++ [literal]).contains ·) =
          literals.filter (!clause.contains ·) := by
        refine List.filter_congr fun other inside => ?_
        have apart : (other == literal) = false := by rw [BEq.comm, fresh other inside]
        simp [apart]
      rw [if_neg Bool.false_ne_true, others, List.filter_cons_of_pos (by rw [known]; rfl),
        List.append_assoc, List.singleton_append]

/-- No literal of the second clause is the same as the pivot, whose complement that clause lists. -/
theorem Opposed.beq_pivot_eq_false (opposed : Opposed left right pivot partner)
    (consistent' : right.Consistent) (inside : literal ∈ right) : (literal == pivot) = false := by
  rw [Bool.eq_false_iff]
  intro same
  have complement : literal.isComplement partner = true := by
    rw [Literal.isComplement_congr_left same]
    exact opposed.complement
  have partnerSame := opposed.symm.pivot_beq_self
  rw [consistent'.not_isComplement (contains_self inside (Literal.hasNaN_of_beq_left same))
    (contains_self opposed.partner_mem (Literal.hasNaN_of_beq_left partnerSame))] at complement
  cases complement

/-- So what the first clause keeps contains such a literal if the first clause does. -/
theorem Opposed.contains_filter (opposed : Opposed left right pivot partner)
    (consistent' : right.Consistent) (inside : literal ∈ right) :
    (left.filter (· != pivot)).contains literal = left.contains literal := by
  rw [Bool.eq_iff_iff, List.contains_iff_exists_mem_beq, List.contains_iff_exists_mem_beq]
  constructor
  · rintro ⟨member, kept, same⟩
    exact ⟨member, (List.mem_filter.mp kept).1, same⟩
  · rintro ⟨member, among, same⟩
    refine ⟨member, List.mem_filter.mpr ⟨among, ?_⟩, same⟩
    rw [bne, Bool.not_eq_true', ← BEq.congr_left same]
    exact opposed.beq_pivot_eq_false consistent' inside

/-- **The consensus lists what is left of the first clause, and then what is left of the second one
and is not in the first.** -/
theorem Opposed.resolvent_eq (opposed : Opposed left right pivot partner)
    (consistent : left.Consistent) (consistent' : right.Consistent) :
    (unopposed right left).foldl add (unopposed left right) =
      left.filter (· != pivot) ++
        right.filter fun literal => literal != partner && !left.contains literal := by
  have distinct : (unopposed right left).Pairwise fun left right => (left == right) = false :=
    (consistent'.sublist List.filter_sublist).distinct
  rw [foldl_add_eq distinct, opposed.unopposed_left consistent,
    opposed.symm.unopposed_left consistent', List.filter_filter]
  refine congrArg (left.filter (· != pivot) ++ ·) (List.filter_congr fun literal inside => ?_)
  rw [opposed.contains_filter consistent' inside, Bool.and_comm]

/-! ### What it is -/

/-- **The consensus of consistent clauses.** There is one if and only if one literal of the first
clause, and no other, has its complement in the second. It holds all other literals of both, is
consistent itself, and wherever it is true one of the two clauses is. Literals that name NaN need no
exception: they have no complement, and none is the same as another. -/
theorem consensus_of_consistent (consistent : left.Consistent) (consistent' : right.Consistent) :
    ((left.consensus right).isSome = true ↔
        ∃! pivot, pivot ∈ left ∧ right.any pivot.isComplement = true) ∧
      ∀ resolvent ∈ left.consensus right,
        (∃ pivot ∈ left, ∃ partner ∈ right, pivot.isComplement partner = true ∧
            resolvent = left.filter (· != pivot) ++
              right.filter fun literal => literal != partner && !left.contains literal) ∧
          resolvent.Consistent ∧
          ∀ context, resolvent.evaluate context = true →
            left.evaluate context = true ∨ right.evaluate context = true := by
  refine ⟨isSome_consensus_iff consistent consistent', fun resolvent found => ⟨?_, ?_, ?_⟩⟩
  · obtain ⟨⟨pivot, partner, opposed⟩, rfl⟩ := consensus_eq_some found
    exact ⟨pivot, opposed.pivot_mem, partner, opposed.partner_mem, opposed.complement,
      opposed.resolvent_eq consistent consistent'⟩
  · exact consistent.consensus consistent' found
  · intro context holds
    simp only [← value_assignment] at holds ⊢
    exact value_of_consensus found holds

end Engine

/-- The clauses `a && n == 0 && m > '1'` and `!a && n == -0 && m <= '1'`. -/
def boundedClause (holds : Bool) : Clause :=
  [.test (.has "a") holds, .test (.equals "n" (.number ⟨!holds, 0⟩)) true,
    .ordered "m" (if holds then .greater else .atMost) (.string "1")]

/-- They are opposed in `a` and in nothing else: one zero is the other, and a comparison has no
complement. What is left is `n == 0 && m > '1' && m <= '1'`. -/
theorem consensus_of_consistent_bounds :
    (boundedClause true).Consistent ∧ (boundedClause false).Consistent ∧
      (∃! pivot, pivot ∈ boundedClause true ∧
        (boundedClause false).any pivot.isComplement = true) ∧
      ∃ resolvent ∈ (boundedClause true).consensus (boundedClause false), resolvent.length = 3 ∧
        ∀ context, resolvent.evaluate context = true →
          (boundedClause true).evaluate context = true ∨
            (boundedClause false).evaluate context = true := by
  have consistent : ∀ holds, (boundedClause holds).Consistent := by decide
  obtain ⟨unique, whole⟩ := consensus_of_consistent (consistent true) (consistent false)
  have some' : ((boundedClause true).consensus (boundedClause false)).isSome = true := by decide
  obtain ⟨resolvent, found⟩ := Option.isSome_iff_exists.mp some'
  obtain ⟨-, -, value⟩ := whole resolvent found
  have length : ((boundedClause true).consensus (boundedClause false)).map List.length =
      some 3 := by decide
  rw [found] at length
  exact ⟨consistent true, consistent false, unique.mp some', resolvent, found,
    Option.some.inj length, value⟩

end WhenClause.Clause

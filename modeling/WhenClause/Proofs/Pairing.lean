/-
**Equality as a pairing of terms.**

`==` pairs off the members of two lists by taking, for each member of one, the first one left in the
other that is the same. That finds a pairing whenever there is one: what is taken in place of a
partner is the same as the partner, so whoever had it can take the partner instead. This needs no more
of the comparison of members than symmetry and transitivity, and these hold of the pairing again. So
they go from literals to clauses, and from clauses to expressions.

* `PartialEquivalence.sameMembers_iff_paired`: members pair off exactly if some pairing exists;
* `PartialEquivalence.sameMembers`: pairing off is symmetric and transitive, too;
* `equality_laws`: equality of built expressions is an equivalence, it pairs off the terms of
  conjunctions and of disjunctions, and evaluation cannot tell equal expressions apart.
-/

import Mathlib.Data.Multiset.MapFold
import WhenClause.Proofs.Complete
import WhenClause.Proofs.Negation
import WhenClause.Regex.Engine

namespace WhenClause

open Expression

/-! ### Pairings -/

/-- A comparison that is symmetric and transitive. -/
structure PartialEquivalence {α : Type} (same : α → α → Bool) : Prop where
  symm : ∀ {a b}, same a b = true → same b a = true
  trans : ∀ {a b c}, same a b = true → same b c = true → same a c = true

/-- There is a one-to-one pairing of the members of two lists in which partners are the same. -/
def Paired {α : Type} (same : α → α → Bool) (members others : List α) : Prop :=
  Multiset.Rel (fun member other => same member other = true) members others

section Pairing

variable {α β : Type} {same : α → α → Bool} {members others : List α}

/-- A member and what is left without it. -/
theorem coe_middle (front : List α) (member : α) (back : List α) :
    ((front ++ member :: back : List α) : Multiset α) = member ::ₘ ↑(front ++ back) :=
  Multiset.coe_eq_coe.mpr List.perm_middle

theorem paired_cons_left {member : α} :
    Paired same (member :: members) others ↔ ∃ partner left, same member partner = true ∧
      Multiset.Rel (fun member other => same member other = true) members left ∧
        (others : Multiset α) = partner ::ₘ left := by
  rw [Paired, ← Multiset.cons_coe, Multiset.rel_cons_left]

theorem paired_map {same : β → β → Bool} {f : α → β} :
    Paired same (members.map f) (others.map f) ↔
      Paired (fun member other => same (f member) (f other)) members others := by
  rw [Paired, ← Multiset.map_coe, ← Multiset.map_coe, Multiset.rel_map]
  rfl

/-- What is taken greedily is a pairing. -/
theorem paired_of_sameMembers (matched : sameMembers same members others = true) :
    Paired same members others := by
  induction members generalizing others with
  | nil =>
    rw [sameMembers, List.isEmpty_iff] at matched
    rw [matched]
    exact Multiset.Rel.zero
  | cons member members ih =>
    rw [sameMembers, Bool.and_eq_true, List.any_eq_true] at matched
    obtain ⟨⟨_, inside, holds⟩, rest⟩ := matched
    obtain ⟨taken, front, back, -, pair, rfl, left⟩ := List.exists_of_eraseP inside holds
    rw [left] at rest
    exact paired_cons_left.mpr ⟨taken, _, pair, ih rest, coe_middle front taken back⟩

namespace PartialEquivalence

variable (equivalence : PartialEquivalence same)

include equivalence

/-- **A partner can be exchanged.** If a member has a partner in a pairing, but takes another one that
is the same, the others still pair off with what is left. -/
theorem exchange {member partner taken : α} {members others left : Multiset α}
    (pair : same member partner = true) (pair' : same member taken = true)
    (rest : Multiset.Rel (fun member other => same member other = true) members others)
    (whole : partner ::ₘ others = taken ::ₘ left) :
    Multiset.Rel (fun member other => same member other = true) members left := by
  rcases Multiset.cons_eq_cons.mp whole with ⟨-, rfl⟩ | ⟨-, common, rfl, rfl⟩
  · exact rest
  · -- whoever had what is taken gets the partner that is given up
    obtain ⟨rival, rivals, had, rest', rfl⟩ := Multiset.rel_cons_right.mp rest
    have swapped : same rival partner = true :=
      equivalence.trans had (equivalence.trans (equivalence.symm pair') pair)
    exact Multiset.Rel.cons swapped rest'

theorem sameMembers_of_paired (paired : Paired same members others) :
    sameMembers same members others = true := by
  induction members generalizing others with
  | nil =>
    rw [sameMembers, List.isEmpty_iff]
    exact (Multiset.coe_eq_zero others).mp (Multiset.rel_zero_left.mp paired)
  | cons member members ih =>
    obtain ⟨partner, others', pair, rest, whole⟩ := paired_cons_left.mp paired
    have inside : partner ∈ others := by
      rw [← Multiset.mem_coe, whole]
      exact Multiset.mem_cons_self _ _
    obtain ⟨taken, front, back, -, pair', rfl, left⟩ := List.exists_of_eraseP inside pair
    rw [coe_middle] at whole
    rw [sameMembers, Bool.and_eq_true, List.any_eq_true, left]
    exact ⟨⟨partner, inside, pair⟩, ih (equivalence.exchange pair pair' rest whole.symm)⟩

/-- **Members pair off exactly if there is a pairing**: taking the first one that is the same never
misses one. -/
theorem sameMembers_iff_paired :
    WhenClause.sameMembers same members others = true ↔ Paired same members others :=
  ⟨paired_of_sameMembers, equivalence.sameMembers_of_paired⟩

/-- **Pairing off is symmetric and transitive**, as the comparison of members is. -/
theorem sameMembers : PartialEquivalence (WhenClause.sameMembers same) where
  symm matched := by
    rw [equivalence.sameMembers_iff_paired] at matched ⊢
    exact Multiset.rel_flip.mp (matched.mono fun _ _ _ _ pair => equivalence.symm pair)
  trans matched matched' := by
    rw [equivalence.sameMembers_iff_paired] at matched matched' ⊢
    have : IsTrans α fun member other => same member other = true :=
      ⟨fun _ _ _ => equivalence.trans⟩
    exact Multiset.Rel.trans _ matched matched'

/-- Members that are the same as themselves pair off with themselves. -/
theorem sameMembers_self (reflexive : ∀ member ∈ members, same member member = true) :
    WhenClause.sameMembers same members members = true :=
  equivalence.sameMembers_iff_paired.mpr (Multiset.rel_refl_of_refl_on reflexive)

end PartialEquivalence

end Pairing

section Engine

variable [PatternEngine]
variable {known : Facts → Prop} {expression left right first second third : Expression}
  {clause : Clause}

/-! ### Equality of clauses and of expressions -/

theorem partialEquivalence_literal :
    PartialEquivalence fun literal literal' : Literal => literal == literal' :=
  ⟨BEq.symm, BEq.trans⟩

theorem partialEquivalence_clause :
    PartialEquivalence (sameMembers fun literal literal' : Literal => literal == literal') :=
  partialEquivalence_literal.sameMembers

/-- Equality of expressions is symmetric and transitive, whatever their numbers. -/
instance : PartialEquivBEq Expression where
  symm := partialEquivalence_clause.sameMembers.symm
  trans := partialEquivalence_clause.sameMembers.trans

/-- **An expression without NaN is equal to itself.** -/
theorem Expression.NaNFree.beq_self (nanFree : expression.NaNFree) :
    (expression == expression) = true :=
  partialEquivalence_clause.sameMembers_self fun clause inside =>
    partialEquivalence_literal.sameMembers_self fun literal member =>
      literal.beq_self_iff.mpr (nanFree clause inside literal member)

theorem ofClause_beq (clause clause' : Clause) :
    (ofClause clause == ofClause clause') = sameMembers (· == ·) clause clause' := by
  show sameMembers (sameMembers (· == ·)) [clause] [clause'] = _
  cases same : sameMembers (· == ·) clause clause' <;> simp [sameMembers, same]

theorem single_beq (literal literal' : Literal) :
    (single literal == single literal') = (literal == literal') := by
  rw [single, single, ofClause_beq]
  cases same : literal == literal' <;> simp [sameMembers, same]

/-! ### Terms -/

/-- A conjunction of at least two literals. -/
def Expression.IsConjunction (expression : Expression) : Prop :=
  ∃ clause, expression = ofClause clause ∧ 2 ≤ clause.length

/-- A disjunction of at least two clauses. -/
def Expression.IsDisjunction (expression : Expression) : Prop := 2 ≤ expression.clauses.length

theorem conjuncts_ofClause (some' : clause ≠ []) :
    (ofClause clause).conjuncts = clause.map single := by
  cases clause with
  | nil => exact absurd rfl some'
  | cons literal literals => rfl

/-- **Conjunctions are equal exactly if their literals pair off.** -/
theorem beq_iff_paired_conjuncts (conjunction : left.IsConjunction)
    (conjunction' : right.IsConjunction) :
    (left == right) = true ↔ Paired (· == ·) left.conjuncts right.conjuncts := by
  obtain ⟨clause, rfl, many⟩ := conjunction
  obtain ⟨clause', rfl, many'⟩ := conjunction'
  rw [conjuncts_ofClause (List.ne_nil_of_length_pos (by omega)),
    conjuncts_ofClause (List.ne_nil_of_length_pos (by omega)), ofClause_beq,
    partialEquivalence_literal.sameMembers_iff_paired, paired_map]
  simp only [single_beq]

/-- **Disjunctions are equal exactly if their clauses pair off.** -/
theorem beq_iff_paired_alternatives (disjunction : left.IsDisjunction)
    (disjunction' : right.IsDisjunction) :
    (left == right) = true ↔ Paired (· == ·) left.alternatives right.alternatives := by
  have alternatives : ∀ {expression : Expression}, expression.IsDisjunction →
      expression.alternatives = expression.clauses.map ofClause := by
    rintro ⟨_ | ⟨clause, clauses⟩⟩ disjunction
    · cases disjunction
    · rfl
  rw [alternatives disjunction, alternatives disjunction', paired_map]
  simp only [ofClause_beq]
  exact partialEquivalence_clause.sameMembers_iff_paired

/-- **Equality of built expressions without NaN.** It is reflexive, symmetric and transitive. Two
conjunctions, or two disjunctions, are equal exactly if there is a one-to-one pairing of equal terms.
And equal expressions evaluate alike in every context. -/
theorem equality_laws (built : ∀ operand ∈ [first, second, third], Built known operand)
    (nanFree : ∀ operand ∈ [first, second, third], operand.NaNFree) :
    (first == first) = true ∧
      ((first == second) = true → (second == first) = true) ∧
      ((first == second) = true → (second == third) = true → (first == third) = true) ∧
      (first.IsConjunction → second.IsConjunction →
        ((first == second) = true ↔ Paired (· == ·) first.conjuncts second.conjuncts)) ∧
      (first.IsDisjunction → second.IsDisjunction →
        ((first == second) = true ↔ Paired (· == ·) first.alternatives second.alternatives)) ∧
      ((first == second) = true → ∀ context,
        first.evaluate context = second.evaluate context) := by
  have formed : first.Formed := (built first (by simp)).formed
  have formed' : second.Formed := (built second (by simp)).formed
  refine ⟨(nanFree first (by simp)).beq_self, BEq.symm, BEq.trans, beq_iff_paired_conjuncts,
    beq_iff_paired_alternatives, fun equal context => ?_⟩
  have value := value_eq_of_beq formed formed' equal context.assignment
  rwa [Expression.value_assignment, Expression.value_assignment] at value

end Engine

/-- `a && n == 0` and `n == -0 && a` are equal: each literal of the one has its like in the other. -/
theorem equality_laws_signed_zero :
    (conj [has none "a", equals none "n" (.number Double.zero)] ==
        conj [equals none "n" (.number ⟨true, 0⟩), has none "a"]) = true ∧
      ∀ context, (conj [has none "a", equals none "n" (.number Double.zero)]).evaluate context =
        (conj [equals none "n" (.number ⟨true, 0⟩), has none "a"]).evaluate context := by
  have builtKey : Built (· = none) (has none "a") := @Built.ofTest _ (· = none) none rfl _ _
  have builtZero : ∀ zero, Built (· = none) (equals none "n" (.number zero)) := fun _ =>
    @Built.ofTest _ (· = none) none rfl _ _
  have built : Built (· = none) (conj [has none "a", equals none "n" (.number Double.zero)]) :=
    .conj (forall_mem_pair builtKey (builtZero _))
  have built' : Built (· = none) (conj [equals none "n" (.number ⟨true, 0⟩), has none "a"]) :=
    .conj (forall_mem_pair (builtZero _) builtKey)
  have joined : conj [has none "a", equals none "n" (.number Double.zero)] =
      ofClause [.test (.has "a") true, .test (.equals "n" (.number Double.zero)) true] :=
    @conj_map_single _ [.test (.has "a") true, .test (.equals "n" (.number Double.zero)) true]
      (List.pairwise_pair.mpr ⟨rfl, rfl⟩)
  have joined' : conj [equals none "n" (.number ⟨true, 0⟩), has none "a"] =
      ofClause [.test (.equals "n" (.number ⟨true, 0⟩)) true, .test (.has "a") true] :=
    @conj_map_single _ [.test (.equals "n" (.number ⟨true, 0⟩)) true, .test (.has "a") true]
      (List.pairwise_pair.mpr ⟨rfl, rfl⟩)
  obtain ⟨-, -, -, conjunctions, -, evaluates⟩ :=
    equality_laws (List.forall_mem_cons.mpr ⟨built, forall_mem_pair built' built⟩)
      (List.forall_mem_cons.mpr ⟨kept_nanFree.conj (by decide),
        forall_mem_pair (kept_nanFree.conj (by decide)) (kept_nanFree.conj (by decide))⟩)
  have equal := (conjunctions ⟨_, joined, Nat.le_refl _⟩ ⟨_, joined', Nat.le_refl _⟩).mpr (by
    rw [joined, joined']
    exact paired_of_sameMembers (by decide))
  exact ⟨equal, evaluates equal⟩

end WhenClause

/-
**Absorption.**

`minimal` drops each clause that includes another one. Nothing is lost by that, and nothing is left
that includes something else:

* `covered_minimal`: a clause is kept, or it includes a clause that is kept;
* `pairwise_minimal`: of the clauses kept none includes another one;
* `anyValue_minimal`: the clauses kept have the value of all.

All of this needs clauses that list no literal twice: `a && a` and `a` would each be dropped for the
other one.
-/

import WhenClause.Expression.Canonical
import WhenClause.Proofs.Subset

namespace WhenClause

open Clause (isSubset)

variable [PatternEngine]
variable {clause kept : Clause} {clauses before : List Clause}

/-! ### Covering -/

/-- A clause is among others, or it includes one of them. -/
def Covered (clauses : List Clause) (clause : Clause) : Prop :=
  ∃ kept ∈ clauses, kept = clause ∨ isSubset kept clause = true

theorem Covered.of_mem (member : clause ∈ clauses) : Covered clauses clause :=
  ⟨clause, member, Or.inl rfl⟩

theorem Covered.mono (covered : Covered before clause) (subset : before ⊆ clauses) :
    Covered clauses clause := by
  obtain ⟨kept, among, covers⟩ := covered
  exact ⟨kept, subset among, covers⟩

/-- What covers a clause covers everything that includes it. -/
theorem Covered.of_isSubset (covered : Covered clauses kept) (below : isSubset kept clause = true) :
    Covered clauses clause := by
  obtain ⟨first, among, covers⟩ := covered
  refine ⟨first, among, Or.inr ?_⟩
  rcases covers with rfl | covers
  · exact below
  · exact Clause.isSubset_trans covers below

/-- A clause without NaN includes the clause that it is covered by. -/
theorem Covered.exists_isSubset (covered : Covered clauses clause) (nanFree : clause.NaNFree) :
    ∃ kept ∈ clauses, isSubset kept clause = true := by
  obtain ⟨kept, among, rfl | covers⟩ := covered
  · exact ⟨kept, among, Clause.isSubset_refl nanFree⟩
  · exact ⟨kept, among, covers⟩

/-- One of the clauses is true where a clause that they cover is. -/
theorem Covered.anyValue {assignment : Assignment} (covered : Covered clauses clause)
    (holds : clause.value assignment = true) : anyValue assignment clauses = true := by
  obtain ⟨kept, among, covers⟩ := covered
  refine (anyValue_eq_true assignment).mpr ⟨kept, among, ?_⟩
  rcases covers with rfl | covers
  · exact holds
  · exact Clause.value_of_isSubset covers holds

/-! ### What is kept -/

theorem minimalBehind_sublist (before clauses : List Clause) :
    (minimalBehind before clauses).Sublist clauses := by
  induction clauses generalizing before with
  | nil => exact List.Sublist.refl _
  | cons clause behind ih =>
    unfold minimalBehind
    split
    · exact (ih (clause :: before)).cons clause
    · exact (ih (clause :: before)).cons_cons clause

/-- The clauses kept are in the order of all clauses. -/
theorem minimal_sublist (clauses : List Clause) : (minimal clauses).Sublist clauses :=
  minimalBehind_sublist [] clauses

/-- What is kept includes nothing before it. -/
theorem not_isSubset_of_mem_minimalBehind (member : kept ∈ minimalBehind before clauses) :
    ∀ earlier ∈ before, isSubset earlier kept = false := by
  induction clauses generalizing before with
  | nil => cases member
  | cons clause behind ih =>
    unfold minimalBehind at member
    split at member
    · exact fun earlier among => ih member earlier (List.mem_cons_of_mem _ among)
    · rename_i apart
      rcases List.mem_cons.mp member with rfl | member
      · simp only [Bool.or_eq_true, not_or, Bool.not_eq_true, List.any_eq_false] at apart
        exact fun earlier among => by simpa using apart.1 earlier among
      · exact fun earlier among => ih member earlier (List.mem_cons_of_mem _ among)

/-- **Of the clauses kept none includes another one.** A later one would be no shorter than what
includes it, so it would be the same. -/
theorem pairwise_minimalBehind (consistent : ∀ clause ∈ clauses, clause.Consistent) :
    (minimalBehind before clauses).Pairwise fun left right =>
      isSubset left right = false ∧ isSubset right left = false := by
  induction clauses generalizing before with
  | nil => exact List.Pairwise.nil
  | cons clause behind ih =>
    obtain ⟨-, consistent⟩ := List.forall_mem_cons.mp consistent
    unfold minimalBehind
    split
    · exact ih consistent
    · rename_i apart
      refine List.pairwise_cons.mpr ⟨fun later member => ?_, ih consistent⟩
      have above := not_isSubset_of_mem_minimalBehind member clause List.mem_cons_self
      refine ⟨above, ?_⟩
      rw [Bool.eq_false_iff]
      intro below
      have among := (minimalBehind_sublist _ _).subset member
      have long : clause.length ≤ later.length := by
        simp only [Bool.or_eq_true, not_or, Bool.not_eq_true, List.any_eq_false] at apart
        simpa [below] using apart.2 later among
      rw [Clause.isSubset_of_length_le (consistent later among).distinct below long] at above
      cases above

theorem pairwise_minimal (consistent : ∀ clause ∈ clauses, clause.Consistent) :
    (minimal clauses).Pairwise fun left right =>
      isSubset left right = false ∧ isSubset right left = false :=
  pairwise_minimalBehind consistent

/-! ### What is dropped -/

/-- A clause that includes nothing before it and nothing shorter behind it is kept. -/
theorem mem_minimalBehind {front back : List Clause}
    (first : ∀ earlier ∈ before ++ front, isSubset earlier clause = false)
    (short : ∀ later ∈ back, isSubset later clause = true → clause.length ≤ later.length) :
    clause ∈ minimalBehind before (front ++ clause :: back) := by
  induction front generalizing before with
  | nil =>
    have apart : ¬((before.any (isSubset · clause) ||
        back.any fun other => isSubset other clause && other.length < clause.length) = true) := by
      simp only [Bool.or_eq_true, not_or, Bool.not_eq_true, List.any_eq_false]
      refine ⟨fun earlier among => ?_, fun later among => ?_⟩
      · simp [first earlier (List.mem_append_left _ among)]
      · cases below : isSubset later clause with
        | false => simp
        | true => simpa using short later among below
    rw [List.nil_append, minimalBehind, if_neg apart]
    exact List.mem_cons_self
  | cons head front ih =>
    have inside : clause ∈ minimalBehind (head :: before) (front ++ clause :: back) := by
      refine ih fun earlier among => first earlier ?_
      simp only [List.mem_append, List.mem_cons] at among ⊢
      rcases among with (rfl | among) | among
      · exact Or.inr (Or.inl rfl)
      · exact Or.inl among
      · exact Or.inr (Or.inr among)
    rw [List.cons_append, minimalBehind]
    split
    · exact inside
    · exact List.mem_cons_of_mem _ inside

/-- **Every clause is covered by those that are kept.** The induction is on its length: if it
includes nothing shorter, the first clause that it includes is kept, or it is kept itself. -/
theorem covered_minimal (consistent : ∀ clause ∈ clauses, clause.Consistent)
    (member : clause ∈ clauses) : Covered (minimal clauses) clause := by
  induction size : clause.length using Nat.strongRecOn generalizing clause with
  | ind size ih =>
  subst size
  by_cases shorter : ∃ other ∈ clauses, isSubset other clause = true ∧ other.length < clause.length
  · obtain ⟨other, among, below, less⟩ := shorter
    exact (ih other.length less among rfl).of_isSubset below
  have long : ∀ other ∈ clauses, isSubset other clause = true → clause.length ≤ other.length :=
    fun other among below => Nat.le_of_not_lt fun less => shorter ⟨other, among, below, less⟩
  cases found : clauses.find? (isSubset · clause) with
  | some first =>
    obtain ⟨below, front, back, rfl, apart⟩ := List.find?_eq_some_iff_append.mp found
    have short := Clause.length_le_of_isSubset (consistent first (by simp)).distinct below
    refine ⟨first, mem_minimalBehind (fun earlier among => ?_) (fun later among under => ?_),
      Or.inr below⟩
    · rw [Bool.eq_false_iff]
      intro under
      have included := Clause.isSubset_trans under below
      have excluded := apart earlier (by simpa using among)
      rw [included] at excluded
      cases excluded
    · exact Nat.le_trans short (long later (by simp [among]) (Clause.isSubset_trans under below))
  | none =>
    have apart : ∀ other ∈ clauses, isSubset other clause = false := by
      simpa using List.find?_eq_none.mp found
    obtain ⟨front, back, rfl⟩ := List.append_of_mem member
    refine ⟨clause, mem_minimalBehind (fun earlier among => ?_) (fun later among under => ?_),
      Or.inl rfl⟩
    · exact apart earlier (List.mem_append_left _ (by simpa using among))
    · rw [apart later (by simp [among])] at under
      cases under

/-- **The clauses kept have the value of all.** -/
theorem anyValue_minimal (assignment : Assignment)
    (consistent : ∀ clause ∈ clauses, clause.Consistent) :
    anyValue assignment (minimal clauses) = anyValue assignment clauses := by
  rw [Bool.eq_iff_iff, anyValue_eq_true, anyValue_eq_true]
  constructor
  · rintro ⟨clause, member, holds⟩
    exact ⟨clause, (minimal_sublist clauses).subset member, holds⟩
  · rintro ⟨clause, member, holds⟩
    exact (anyValue_eq_true assignment).mp ((covered_minimal consistent member).anyValue holds)

end WhenClause

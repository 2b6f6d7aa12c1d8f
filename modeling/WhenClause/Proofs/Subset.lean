/-
**Clauses as sets of literals.**

Clauses are lists, but only the set of their literals up to `==` counts. Membership in it is
`List.contains`, inclusion is `Clause.isSubset`. A `Consistent` clause lists each literal once and
none beside its complement, so its length is the size of the set:

* `Clause.length_le_of_isSubset`: a subset is no longer than the clause it is a subset of;
* `Clause.isSubset_of_length_le`: a subset that is as long is no proper subset.

Adding literals conjoins their values and keeps clauses consistent (`Clause.value_extendAll?`,
`Clause.Consistent.extendAll?`).
-/

import WhenClause.Proofs.Assignment

namespace WhenClause

/-- Of two different members of a list one comes first. -/
theorem rel_or_rel_of_ne {α : Type} {R : α → α → Prop} {list : List α} (pairwise : list.Pairwise R)
    {first second : α} (inside : first ∈ list) (inside' : second ∈ list) (differ : first ≠ second) :
    R first second ∨ R second first :=
  List.Pairwise.forall_of_forall_of_flip
    (R := fun first second => first ≠ second → R first second ∨ R second first)
    (fun _ _ differ => absurd rfl differ) (pairwise.imp fun holds _ => Or.inl holds)
    (pairwise.imp fun holds _ => Or.inr holds) inside inside' differ

variable [PatternEngine]

theorem Literal.isComplement_self (literal : Literal) : literal.isComplement literal = false := by
  cases literal <;> simp [isComplement]

namespace Clause

/-- No literal names NaN. -/
def NaNFree (clause : Clause) : Prop := ∀ literal ∈ clause, literal.hasNaN = false

/-- The literals are pairwise different, and none is the complement of another. -/
def Consistent (clause : Clause) : Prop :=
  clause.Pairwise fun left right => (left == right) = false ∧ left.isComplement right = false

instance (clause : Clause) : Decidable clause.NaNFree :=
  inferInstanceAs (Decidable (∀ literal ∈ clause, literal.hasNaN = false))

instance (clause : Clause) : Decidable clause.Consistent :=
  inferInstanceAs (Decidable (clause.Pairwise fun left right =>
    (left == right) = false ∧ left.isComplement right = false))

variable {clause smaller larger : Clause} {literal other : Literal}

/-! ### Membership -/

theorem contains_self (member : literal ∈ clause) (nanFree : literal.hasNaN = false) :
    clause.contains literal = true :=
  List.contains_iff_exists_mem_beq.mpr ⟨literal, member, (Literal.beq_self_iff literal).mpr nanFree⟩

/-- A clause contains only literals without NaN. -/
theorem hasNaN_of_contains (contained : clause.contains literal = true) :
    literal.hasNaN = false := by
  obtain ⟨_, _, same⟩ := List.contains_iff_exists_mem_beq.mp contained
  exact Literal.hasNaN_of_beq_left same

/-- A true clause contains only true literals. -/
theorem value_of_contains {assignment : Assignment} (holds : clause.value assignment = true)
    (contained : clause.contains literal = true) : literal.value assignment = true := by
  obtain ⟨member, inside, same⟩ := List.contains_iff_exists_mem_beq.mp contained
  rw [Literal.value_congr assignment same]
  exact (value_eq_true assignment).mp holds member inside

/-! ### Inclusion -/

theorem isSubset_iff :
    isSubset smaller larger = true ↔ ∀ literal ∈ smaller, larger.contains literal = true := by
  simp only [isSubset, List.all_eq_true]

@[simp] theorem isSubset_nil : isSubset [] clause = true := rfl

theorem isSubset_cons :
    isSubset (literal :: smaller) larger = true ↔
      larger.contains literal = true ∧ isSubset smaller larger = true := by
  simp only [isSubset_iff, List.forall_mem_cons]

theorem contains_of_isSubset (subset : isSubset smaller larger = true)
    (contained : smaller.contains literal = true) : larger.contains literal = true := by
  obtain ⟨member, inside, same⟩ := List.contains_iff_exists_mem_beq.mp contained
  rw [List.contains_congr same]
  exact isSubset_iff.mp subset member inside

theorem isSubset_trans (first : isSubset smaller clause = true)
    (second : isSubset clause larger = true) : isSubset smaller larger = true :=
  isSubset_iff.mpr fun member inside =>
    contains_of_isSubset second (isSubset_iff.mp first member inside)

theorem isSubset_of_subset (nanFree : smaller.NaNFree) (subset : smaller ⊆ larger) :
    isSubset smaller larger = true :=
  isSubset_iff.mpr fun member inside => contains_self (subset inside) (nanFree member inside)

theorem isSubset_refl (nanFree : clause.NaNFree) : isSubset clause clause = true :=
  isSubset_of_subset nanFree (List.Subset.refl _)

/-- **A subset demands less.** -/
theorem value_of_isSubset {assignment : Assignment} (subset : isSubset smaller larger = true)
    (holds : larger.value assignment = true) : smaller.value assignment = true :=
  (value_eq_true assignment).mpr fun member inside =>
    value_of_contains holds (isSubset_iff.mp subset member inside)

/-! ### Sizes -/

/-- Without a literal that the subset lacks, it is still a subset. -/
theorem isSubset_split {front back : Clause}
    (subset : isSubset smaller (front ++ literal :: back) = true)
    (absent : smaller.contains literal = false) : isSubset smaller (front ++ back) = true := by
  refine isSubset_iff.mpr fun member inside => ?_
  obtain ⟨partner, among, same⟩ :=
    List.contains_iff_exists_mem_beq.mp (isSubset_iff.mp subset member inside)
  refine List.contains_iff_exists_mem_beq.mpr ⟨partner, ?_, same⟩
  rcases List.mem_append.mp among with inFront | inBack
  · exact List.mem_append_left _ inFront
  rcases List.mem_cons.mp inBack with rfl | inBack
  · -- the member would be the literal that is absent
    have contained : smaller.contains partner = true :=
      List.contains_iff_exists_mem_beq.mpr ⟨member, inside, BEq.symm same⟩
    rw [contained] at absent
    cases absent
  · exact List.mem_append_right _ inBack

/-- **A subset is no longer than the clause it is a subset of.** -/
theorem length_le_of_isSubset
    (distinct : smaller.Pairwise fun left right => (left == right) = false)
    (subset : isSubset smaller larger = true) : smaller.length ≤ larger.length := by
  induction smaller generalizing larger with
  | nil => exact Nat.zero_le _
  | cons literal smaller ih =>
    obtain ⟨contained, subset⟩ := isSubset_cons.mp subset
    obtain ⟨fresh, distinct⟩ := List.pairwise_cons.mp distinct
    obtain ⟨partner, among, same⟩ := List.contains_iff_exists_mem_beq.mp contained
    obtain ⟨front, back, rfl⟩ := List.append_of_mem among
    have absent : smaller.contains partner = false := by
      rw [Bool.eq_false_iff]
      intro contained
      obtain ⟨member, inside, again⟩ := List.contains_iff_exists_mem_beq.mp contained
      have repeated := BEq.trans same again
      rw [fresh member inside] at repeated
      cases repeated
    have shorter := ih distinct (isSubset_split subset absent)
    simp only [List.length_append, List.length_cons] at shorter ⊢
    omega

/-- **A subset as long as the clause it is a subset of is no proper subset.** -/
theorem isSubset_of_length_le
    (distinct : smaller.Pairwise fun left right => (left == right) = false)
    (subset : isSubset smaller larger = true) (long : larger.length ≤ smaller.length) :
    isSubset larger smaller = true := by
  refine isSubset_iff.mpr fun member inside => ?_
  rw [← Bool.not_eq_false]
  intro absent
  obtain ⟨front, back, rfl⟩ := List.append_of_mem inside
  have shorter := length_le_of_isSubset distinct (isSubset_split subset absent)
  simp only [List.length_append, List.length_cons] at shorter long
  omega

/-! ### Consistency -/

theorem Consistent.distinct (consistent : clause.Consistent) :
    clause.Pairwise fun left right => (left == right) = false :=
  consistent.imp And.left

theorem Consistent.sublist (consistent : clause.Consistent) (sublist : smaller.Sublist clause) :
    smaller.Consistent :=
  List.Pairwise.sublist sublist consistent

theorem consistent_nil : Consistent [] := List.Pairwise.nil

theorem consistent_singleton (literal : Literal) : Consistent [literal] :=
  List.pairwise_singleton _ _

/-- A consistent clause contains no two complements. -/
theorem Consistent.not_isComplement (consistent : clause.Consistent)
    (first : clause.contains literal = true) (second : clause.contains other = true) :
    literal.isComplement other = false := by
  obtain ⟨left, inside, same⟩ := List.contains_iff_exists_mem_beq.mp first
  obtain ⟨right, inside', same'⟩ := List.contains_iff_exists_mem_beq.mp second
  rw [Literal.isComplement_congr_left same, Literal.isComplement_congr_right same']
  by_cases one : left = right
  · rw [one]
    exact right.isComplement_self
  rcases rel_or_rel_of_ne consistent inside inside' one with apart | apart
  · exact apart.2
  · rw [Literal.isComplement_comm]
    exact apart.2

/-- In a consistent clause literals that are the same are identical. -/
theorem Consistent.eq_of_beq (consistent : clause.Consistent) (inside : literal ∈ clause)
    (inside' : other ∈ clause) (same : (literal == other) = true) : literal = other := by
  by_cases one : literal = other
  · exact one
  rcases rel_or_rel_of_ne consistent inside inside' one with apart | apart
  · rw [apart.1] at same
    cases same
  · rw [BEq.comm, apart.1] at same
    cases same

/-! ### Adding literals -/

theorem mem_add (member : other ∈ clause.add literal) : other ∈ clause ∨ other = literal := by
  unfold add at member
  split at member
  · exact Or.inl member
  · exact (List.mem_append.mp member).imp_right List.mem_singleton.mp

theorem value_add (assignment : Assignment) :
    (clause.add literal).value assignment =
      (clause.value assignment && literal.value assignment) := by
  unfold add
  split
  · rename_i contained
    cases holds : clause.value assignment with
    | false => rfl
    | true => rw [value_of_contains holds contained, Bool.true_and]
  · simp

/-- A literal whose complement is not there leaves a clause consistent. -/
theorem Consistent.add (consistent : clause.Consistent)
    (open' : ∀ member ∈ clause, member.isComplement literal = false) :
    (clause.add literal).Consistent := by
  unfold Clause.add
  split
  · exact consistent
  · rename_i absent
    refine List.pairwise_append.mpr ⟨consistent, List.pairwise_singleton _ _, ?_⟩
    intro member inside last isLast
    rw [List.mem_singleton.mp isLast]
    refine ⟨?_, open' member inside⟩
    rw [Bool.eq_false_iff]
    exact fun same => absent (List.contains_iff_exists_mem_beq.mpr ⟨member, inside, BEq.symm same⟩)

theorem extend?_eq_some (extended : clause.extend? literal = some larger) :
    larger = clause.add literal ∧ ∀ member ∈ clause, member.isComplement literal = false := by
  unfold extend? at extended
  split at extended
  · cases extended
  · rename_i closed
    cases extended
    refine ⟨rfl, fun member inside => ?_⟩
    rw [Bool.eq_false_iff]
    exact fun complement => closed (List.any_eq_true.mpr ⟨member, inside, complement⟩)

/-- A literal is added as a further condition; there is no clause exactly if that is impossible. -/
theorem value_extend? (assignment : Assignment) :
    (clause.extend? literal).any (·.value assignment) =
      (clause.value assignment && literal.value assignment) := by
  unfold extend?
  split
  · rename_i closed
    obtain ⟨member, inside, complement⟩ := List.any_eq_true.mp closed
    cases holds : clause.value assignment with
    | false => rfl
    | true =>
      have value := (value_eq_true assignment).mp holds member inside
      rw [Literal.value_of_isComplement assignment complement] at value
      simp_all
  · exact value_add assignment

theorem extendAll?_cons (literals : List Literal) :
    clause.extendAll? (literal :: literals) =
      (clause.extend? literal).bind (·.extendAll? literals) :=
  rfl

/-- **Literals are added as further conditions.** There is no clause only where they are
impossible. -/
theorem value_extendAll? (assignment : Assignment) (clause : Clause) (literals : List Literal) :
    (clause.extendAll? literals).any (·.value assignment) =
      (clause.value assignment && Clause.value assignment literals) := by
  induction literals generalizing clause with
  | nil => simp [extendAll?]
  | cons literal literals ih =>
    rw [extendAll?_cons, value_cons, ← Bool.and_assoc, ← value_extend? assignment]
    cases clause.extend? literal with
    | none => rfl
    | some extended => exact ih extended

/-- **Adding literals keeps a clause consistent.** -/
theorem Consistent.extendAll? (consistent : clause.Consistent) {literals : List Literal}
    (extended : clause.extendAll? literals = some larger) : larger.Consistent := by
  induction literals generalizing clause with
  | nil => cases extended; exact consistent
  | cons literal literals ih =>
    rw [extendAll?_cons] at extended
    obtain ⟨middle, first, rest⟩ := Option.bind_eq_some_iff.mp extended
    obtain ⟨rfl, open'⟩ := extend?_eq_some first
    exact ih (consistent.add open') rest

/-- Nothing but what is added joins a clause. -/
theorem mem_extendAll? {literals : List Literal}
    (extended : clause.extendAll? literals = some larger) (member : literal ∈ larger) :
    literal ∈ clause ∨ literal ∈ literals := by
  induction literals generalizing clause with
  | nil => cases extended; exact Or.inl member
  | cons added literals ih =>
    rw [extendAll?_cons] at extended
    obtain ⟨middle, first, rest⟩ := Option.bind_eq_some_iff.mp extended
    obtain ⟨rfl, -⟩ := extend?_eq_some first
    rcases ih rest with inside | inside
    · refine (mem_add inside).imp_right fun same => ?_
      rw [same]
      exact List.mem_cons_self
    · exact Or.inr (List.mem_cons_of_mem _ inside)

end Clause

end WhenClause

/-
**The consensus of two clauses.**

Two clauses have a consensus if they are `Opposed` in one pair of complements and no other. It joins
what is left of them, the literals that are `unopposed`.

* `Clause.value_of_consensus`: where the consensus is true, one of the two clauses is;
* `Clause.Consistent.consensus`: the consensus of consistent clauses is consistent;
* `Clause.Opposed.opposition_eq_one`: consistent clauses that are opposed in one pair have a
  consensus.
-/

import WhenClause.Proofs.Subset

namespace WhenClause.Clause

variable [PatternEngine]

/-- The literals of a clause that have no complement in another one. -/
def unopposed (clause other : Clause) : Clause :=
  clause.filter fun literal => !other.any literal.isComplement

/-- Two clauses opposed in the pair of `pivot` and `partner`, and in no other pair. -/
structure Opposed (left right : Clause) (pivot partner : Literal) : Prop where
  complement : pivot.isComplement partner = true
  pivot_mem : pivot ∈ left
  partner_mem : partner ∈ right
  left_rest : ∀ literal ∈ left, literal = pivot ∨ literal ∈ unopposed left right
  right_rest : ∀ literal ∈ right, literal = partner ∨ literal ∈ unopposed right left

variable {left right resolvent clause : Clause} {literal pivot partner : Literal}

theorem mem_unopposed :
    literal ∈ unopposed left right ↔
      literal ∈ left ∧ ∀ other ∈ right, literal.isComplement other = false := by
  simp [unopposed]

theorem consensus_eq (left right : Clause) :
    left.consensus right =
      if opposition left right = 1 then
        some ((unopposed right left).foldl add (unopposed left right))
      else none := by
  simp only [consensus, unopposed, Literal.isComplement_comm]

theorem Opposed.symm (opposed : Opposed left right pivot partner) :
    Opposed right left partner pivot where
  complement := by
    rw [Literal.isComplement_comm]
    exact opposed.complement
  pivot_mem := opposed.partner_mem
  partner_mem := opposed.pivot_mem
  left_rest := opposed.right_rest
  right_rest := opposed.left_rest

/-- What has a complement names no NaN. -/
theorem Opposed.pivot_beq_self (opposed : Opposed left right pivot partner) :
    (pivot == pivot) = true :=
  Literal.beq_of_isComplement opposed.complement opposed.complement

/-! ### One pair of complements -/

omit [PatternEngine] in
/-- Where lists join to a single member, one of them is that member and the others are empty. -/
theorem exists_of_flatMap_eq_singleton {α β : Type} {list : List α} {parts : α → List β}
    {only : β} (joined : list.flatMap parts = [only]) :
    ∃ front member back, list = front ++ member :: back ∧ parts member = [only] ∧
      ∀ other ∈ front ++ back, parts other = [] := by
  induction list with
  | nil => cases joined
  | cons head list ih =>
    rw [List.flatMap_cons] at joined
    rcases List.append_eq_singleton_iff.mp joined with ⟨empty, rest⟩ | ⟨single, rest⟩
    · obtain ⟨front, member, back, rfl, single, others⟩ := ih rest
      exact ⟨head :: front, member, back, rfl, single, List.forall_mem_cons.mpr ⟨empty, others⟩⟩
    · exact ⟨[], head, list, rfl, single, List.flatMap_eq_nil_iff.mp rest⟩

/-- **One pair of complements in all is an opposition in one pair.** -/
theorem exists_opposed (one : opposition left right = 1) :
    ∃ pivot partner, Opposed left right pivot partner := by
  obtain ⟨partner, joined⟩ := List.length_eq_one_iff.mp one
  obtain ⟨front, pivot, back, rfl, single, others⟩ := exists_of_flatMap_eq_singleton joined
  have found : partner ∈ right.filter pivot.isComplement := by
    rw [single]
    exact List.mem_singleton_self partner
  obtain ⟨partner_mem, complement⟩ := List.mem_filter.mp found
  have apart : ∀ literal ∈ front ++ back, ∀ other ∈ right, literal.isComplement other = false := by
    intro literal inside other among
    simpa using List.filter_eq_nil_iff.mp (others literal inside) other among
  have places : ∀ literal ∈ front ++ pivot :: back, literal = pivot ∨ literal ∈ front ++ back := by
    intro literal inside
    rcases List.mem_append.mp inside with inFront | inBack
    · exact Or.inr (List.mem_append_left _ inFront)
    · exact (List.mem_cons.mp inBack).imp_right (List.mem_append_right _)
  refine ⟨pivot, partner, complement, by simp, partner_mem, fun literal inside => ?_,
    fun literal inside => ?_⟩
  · exact (places literal inside).imp_right fun rest =>
      mem_unopposed.mpr ⟨inside, apart literal rest⟩
  · by_cases pair : pivot.isComplement literal = true
    · have also : literal ∈ right.filter pivot.isComplement := List.mem_filter.mpr ⟨inside, pair⟩
      rw [single] at also
      exact Or.inl (List.mem_singleton.mp also)
    · refine Or.inr (mem_unopposed.mpr ⟨inside, fun other among => ?_⟩)
      rw [Literal.isComplement_comm]
      rcases places other among with rfl | rest
      · exact Bool.eq_false_iff.mpr pair
      · exact apart other rest literal inside

/-! ### The resolvent -/

theorem value_foldl_add (assignment : Assignment) (literals : List Literal) :
    Clause.value assignment (literals.foldl add clause) =
      (clause.value assignment && Clause.value assignment literals) := by
  induction literals generalizing clause with
  | nil => simp
  | cons literal literals ih =>
    rw [List.foldl_cons, ih, value_add, value_cons, Bool.and_assoc]

theorem mem_foldl_add {literals : List Literal} (member : literal ∈ literals.foldl add clause) :
    literal ∈ clause ∨ literal ∈ literals := by
  induction literals generalizing clause with
  | nil => exact Or.inl member
  | cons added literals ih =>
    rcases ih member with inside | inside
    · refine (mem_add inside).imp_right fun same => ?_
      rw [same]
      exact List.mem_cons_self
    · exact Or.inr (List.mem_cons_of_mem _ inside)

theorem Consistent.foldl_add (consistent : clause.Consistent) {literals : List Literal}
    (consistent' : Consistent literals)
    (apart : ∀ left ∈ clause, ∀ right ∈ literals, left.isComplement right = false) :
    Consistent (literals.foldl Clause.add clause) := by
  induction literals generalizing clause with
  | nil => exact consistent
  | cons literal literals ih =>
    obtain ⟨head, tail⟩ := List.pairwise_cons.mp consistent'
    refine ih (consistent.add fun member inside => apart member inside literal List.mem_cons_self)
      tail fun left inside right among => ?_
    rcases mem_add inside with inside | rfl
    · exact apart left inside right (List.mem_cons_of_mem _ among)
    · exact (head right among).2

/-- The consensus is made of what has no complement on the other side. -/
theorem consensus_eq_some (found : left.consensus right = some resolvent) :
    (∃ pivot partner, Opposed left right pivot partner) ∧
      resolvent = (unopposed right left).foldl add (unopposed left right) := by
  rw [consensus_eq] at found
  split at found
  · rename_i one
    exact ⟨exists_opposed one, (Option.some.inj found).symm⟩
  · cases found

theorem mem_of_mem_consensus (found : left.consensus right = some resolvent)
    (member : literal ∈ resolvent) :
    literal ∈ unopposed left right ∨ literal ∈ unopposed right left := by
  obtain ⟨-, rfl⟩ := consensus_eq_some found
  exact mem_foldl_add member

/-- **Where the consensus is true, one of the two clauses is**: the one that has the true literal of
the pair of complements. -/
theorem value_of_consensus {assignment : Assignment} (found : left.consensus right = some resolvent)
    (holds : resolvent.value assignment = true) :
    left.value assignment = true ∨ right.value assignment = true := by
  obtain ⟨⟨pivot, partner, opposed⟩, rfl⟩ := consensus_eq_some found
  rw [value_foldl_add, Bool.and_eq_true] at holds
  have opposite := Literal.value_of_isComplement assignment opposed.complement
  cases truth : pivot.value assignment with
  | true =>
    refine Or.inl ((value_eq_true assignment).mpr fun literal inside => ?_)
    rcases opposed.left_rest literal inside with rfl | rest
    · exact truth
    · exact (value_eq_true assignment).mp holds.1 literal rest
  | false =>
    refine Or.inr ((value_eq_true assignment).mpr fun literal inside => ?_)
    rcases opposed.right_rest literal inside with rfl | rest
    · simpa [truth] using opposite
    · exact (value_eq_true assignment).mp holds.2 literal rest

/-- **The consensus of consistent clauses is consistent.** -/
theorem Consistent.consensus (consistent : left.Consistent) (consistent' : right.Consistent)
    (found : left.consensus right = some resolvent) : resolvent.Consistent := by
  obtain ⟨-, rfl⟩ := consensus_eq_some found
  refine (consistent.sublist List.filter_sublist).foldl_add
    (consistent'.sublist List.filter_sublist) fun first inside second among => ?_
  exact (mem_unopposed.mp inside).2 second (mem_unopposed.mp among).1

/-- A literal that is the same as itself stands in a consistent clause once. -/
theorem Consistent.not_mem_rest {front back : Clause} (same : (literal == literal) = true)
    (consistent : Consistent (front ++ literal :: back)) : literal ∉ front ++ back := by
  obtain ⟨-, tail, across⟩ := List.pairwise_append.mp consistent
  intro inside
  rcases List.mem_append.mp inside with inFront | inBack
  · rw [(across literal inFront literal List.mem_cons_self).1] at same
    cases same
  · rw [((List.pairwise_cons.mp tail).1 literal inBack).1] at same
    cases same

/-- Beside the pivot a consistent clause lists nothing that is opposed. -/
theorem Opposed.mem_unopposed_of_rest {front back : Clause}
    (opposed : Opposed (front ++ pivot :: back) right pivot partner)
    (consistent : Consistent (front ++ pivot :: back)) (inside : literal ∈ front ++ back) :
    literal ∈ unopposed (front ++ pivot :: back) right := by
  have among : literal ∈ front ++ pivot :: back := by
    simp only [List.mem_append, List.mem_cons] at inside ⊢
    exact inside.imp_right Or.inr
  refine (opposed.left_rest literal among).resolve_left ?_
  rintro rfl
  exact consistent.not_mem_rest opposed.pivot_beq_self inside

/-- **Consistent clauses that are opposed in one pair have a consensus.** -/
theorem Opposed.opposition_eq_one (opposed : Opposed left right pivot partner)
    (consistent : left.Consistent) (consistent' : right.Consistent) :
    opposition left right = 1 := by
  obtain ⟨front, back, rfl⟩ := List.append_of_mem opposed.pivot_mem
  obtain ⟨front', back', rfl⟩ := List.append_of_mem opposed.partner_mem
  have none : ∀ literal ∈ front ++ back,
      (front' ++ partner :: back').filter literal.isComplement = [] := by
    intro literal inside
    obtain ⟨-, apart⟩ := mem_unopposed.mp (opposed.mem_unopposed_of_rest consistent inside)
    exact List.filter_eq_nil_iff.mpr fun other among => Bool.eq_false_iff.mp (apart other among)
  have none' : ∀ other ∈ front' ++ back', ¬pivot.isComplement other = true := by
    intro other inside
    obtain ⟨-, apart⟩ := mem_unopposed.mp (opposed.symm.mem_unopposed_of_rest consistent' inside)
    rw [Literal.isComplement_comm, apart pivot opposed.pivot_mem]
    exact Bool.false_ne_true
  have single : (front' ++ partner :: back').filter pivot.isComplement = [partner] := by
    rw [List.filter_append, List.filter_cons_of_pos opposed.complement,
      List.filter_eq_nil_iff.mpr fun other among => none' other (List.mem_append_left _ among),
      List.filter_eq_nil_iff.mpr fun other among => none' other (List.mem_append_right _ among),
      List.nil_append]
  have empty : ∀ part ⊆ front ++ back,
      (part.flatMap fun literal => (front' ++ partner :: back').filter literal.isComplement) = [] :=
    fun part inside => List.flatMap_eq_nil_iff.mpr fun literal among => none literal (inside among)
  rw [opposition, List.flatMap_append, List.flatMap_cons, single,
    empty front (List.subset_append_left _ _), empty back (List.subset_append_right _ _)]
  rfl

end WhenClause.Clause

/-
**What joining leaves as it is.**

Clauses are `Complete` if none of them includes another one and each consensus of two of them
includes one of them. Nothing is added to such clauses, and nothing is dropped.

* `Expression.Formed.complete_map`: the clauses of a canonical form are complete, and they still are
  when literals give way to equal ones;
* `conjWithin_map_single`, `disjWithin_map_ofClause`: joining the literals of a consistent clause
  gives the clause, and joining complete clauses gives these clauses, in their order.
-/

import WhenClause.Proofs.Equivalence

namespace WhenClause

open Clause (isSubset)
open Expression

variable [PatternEngine]
variable {clause front : Clause} {clauses settled pending before known : List Clause}
  {expression : Expression} {literal : Literal} {limit : Nat}
  {f : Literal → Literal}

/-! ### Complete clauses -/

/-- None of the clauses includes another one, and each consensus of two of them includes one. -/
structure Complete (clauses : List Clause) : Prop where
  apart : clauses.Pairwise fun left right =>
    isSubset left right = false ∧ isSubset right left = false
  closed : ∀ left ∈ clauses, ∀ right ∈ clauses, ∀ resolvent,
    left.consensus right = some resolvent → ∃ kept ∈ clauses, isSubset kept resolvent = true

theorem newConsensus_eq_nil (closed : ∀ earlier ∈ settled, ∀ resolvent,
      earlier.consensus clause = some resolvent → ∃ kept ∈ known, isSubset kept resolvent = true) :
    newConsensus settled known clause = [] := by
  rw [newConsensus_eq_foldl]
  induction settled with
  | nil => rfl
  | cons earlier settled ih =>
    obtain ⟨first, rest⟩ := List.forall_mem_cons.mp closed
    have nothing : addConsensus known clause [] earlier = [] := by
      unfold addConsensus
      split
      · rfl
      · rename_i resolvent found
        obtain ⟨kept, inside, below⟩ := first resolvent found
        rw [List.append_nil, if_pos (List.any_eq_true.mpr ⟨kept, inside, below⟩)]
    rw [List.foldl_cons, nothing]
    exact ih rest

/-- Clauses that hold a part of each consensus are closed as they are. -/
theorem closeWithin_eq (limit : Nat) (closed : ∀ left ∈ settled ++ pending,
      ∀ right ∈ settled ++ pending, ∀ resolvent, left.consensus right = some resolvent →
        ∃ kept ∈ settled ++ pending, isSubset kept resolvent = true) :
    closeWithin limit settled pending = .ok (settled ++ pending) := by
  induction pending generalizing settled with
  | nil => rw [closeWithin, List.append_nil]
  | cons clause rest ih =>
    have nothing : newConsensus settled (settled ++ clause :: rest) clause = [] :=
      newConsensus_eq_nil fun earlier among => closed earlier (List.mem_append_left _ among) clause
        (List.mem_append_right _ List.mem_cons_self)
    have shape : settled ++ clause :: rest = settled ++ [clause] ++ rest := by simp
    rw [closeWithin_cons_of_ok (by rw [nothing]; rfl), nothing, List.append_nil]
    rw [shape] at closed ⊢
    exact ih closed

theorem minimalBehind_eq (apart : clauses.Pairwise fun left right =>
      isSubset left right = false ∧ isSubset right left = false)
    (first : ∀ earlier ∈ before, ∀ clause ∈ clauses, isSubset earlier clause = false) :
    minimalBehind before clauses = clauses := by
  induction clauses generalizing before with
  | nil => rfl
  | cons clause behind ih =>
    obtain ⟨head, tail⟩ := List.pairwise_cons.mp apart
    have front : before.any (isSubset · clause) = false :=
      List.any_eq_false.mpr fun earlier among => by
        rw [first earlier among clause List.mem_cons_self]
        exact Bool.false_ne_true
    have back : (behind.any fun other => isSubset other clause && other.length < clause.length) =
        false :=
      List.any_eq_false.mpr fun other among => by
        rw [(head other among).2, Bool.false_and]
        exact Bool.false_ne_true
    have rest : ∀ earlier ∈ clause :: before, ∀ other ∈ behind, isSubset earlier other = false :=
      List.forall_mem_cons.mpr ⟨fun other among => (head other among).1,
        fun earlier among other among' =>
          first earlier among other (List.mem_cons_of_mem _ among')⟩
    rw [minimalBehind, front, back, ih tail rest]
    rfl

/-- **Complete clauses are their own canonical form.** -/
theorem Complete.ofClausesWithin (complete : Complete clauses) (limit : Nat) :
    Expression.ofClausesWithin limit clauses = .ok ⟨clauses⟩ := by
  have closes : closeWithin limit [] clauses = .ok clauses := closeWithin_eq limit complete.closed
  have same : minimal clauses = clauses := minimalBehind_eq complete.apart nofun
  rw [Expression.ofClausesWithin, closes]
  exact congrArg (fun clauses => Except.ok (Expression.mk clauses)) same

/-- Clauses of tests that must hold have no consensus, so they are complete if they are apart. -/
theorem complete_of_positive (apart : clauses.Pairwise fun left right =>
      isSubset left right = false ∧ isSubset right left = false)
    (positive : ∀ clause ∈ clauses, ∀ literal ∈ clause, ∃ question, literal = .test question true) :
    Complete clauses where
  apart := apart
  closed := by
    intro left inside right inside' resolvent found
    have none' : left.opposition right = 0 := by
      rw [Clause.opposition, List.length_eq_zero_iff, List.flatMap_eq_nil_iff]
      intro literal member
      rw [List.filter_eq_nil_iff]
      intro literal' member'
      obtain ⟨question, rfl⟩ := positive left inside literal member
      obtain ⟨question', rfl⟩ := positive right inside' literal' member'
      simp [Literal.isComplement]
    rw [Clause.consensus, none', if_neg Nat.zero_ne_one] at found
    cases found

/-! ### Equal literals -/

/-- A clause and the same with equal literals have the same literals. -/
theorem Clause.same_map (same : ∀ literal ∈ clause, (f literal == literal) = true) :
    Clause.Same (clause.map f) clause := by
  constructor
  · refine Clause.isSubset_iff.mpr fun literal member => ?_
    obtain ⟨literal', inside, rfl⟩ := List.mem_map.mp member
    exact List.contains_iff_exists_mem_beq.mpr ⟨literal', inside, same literal' inside⟩
  · refine Clause.isSubset_iff.mpr fun literal inside => ?_
    exact List.contains_iff_exists_mem_beq.mpr
      ⟨f literal, List.mem_map_of_mem inside, BEq.symm (same literal inside)⟩

theorem Clause.Consistent.map (consistent : clause.Consistent)
    (same : ∀ literal ∈ clause, (f literal == literal) = true) :
    Clause.Consistent (clause.map f) := by
  refine List.pairwise_map.mpr (List.Pairwise.imp_of_mem ?_ consistent)
  rintro left right inside inside' ⟨differ, open'⟩
  refine ⟨?_, ?_⟩
  · rw [BEq.congr_left (same left inside), BEq.congr_right (same right inside'), differ]
  · rw [Literal.isComplement_congr_left (same left inside),
      Literal.isComplement_congr_right (same right inside'), open']

theorem Clause.NaNFree.map (same : ∀ literal ∈ clause, (f literal == literal) = true) :
    Clause.NaNFree (clause.map f) := by
  intro literal member
  obtain ⟨literal', inside, rfl⟩ := List.mem_map.mp member
  exact Literal.hasNaN_of_beq_left (same literal' inside)

/-- **The clauses of a canonical form are complete**, and so are the same clauses with equal
literals: a consensus is an implicant, so it includes a clause. -/
theorem Expression.Formed.complete_map (formed : expression.Formed) (nanFree : expression.NaNFree)
    (same : ∀ clause ∈ expression.clauses, ∀ literal ∈ clause, (f literal == literal) = true) :
    Complete (expression.clauses.map (·.map f)) where
  apart := by
    have transfer : ∀ {left right : Clause}, left ∈ expression.clauses →
        right ∈ expression.clauses → isSubset left right = false →
          isSubset (left.map f) (right.map f) = false := by
      intro left right inside inside' differ
      rw [Bool.eq_false_iff] at differ ⊢
      intro below
      have below' := Clause.isSubset_trans (Clause.same_map (same left inside)).2 below
      exact differ (Clause.isSubset_trans below' (Clause.same_map (same right inside')).1)
    refine List.pairwise_map.mpr (List.Pairwise.imp_of_mem ?_ formed.apart)
    rintro left right inside inside' ⟨differ, differ'⟩
    exact ⟨transfer inside inside' differ, transfer inside' inside differ'⟩
  closed := by
    intro left' among right' among' resolvent found
    obtain ⟨left, inside, rfl⟩ := List.mem_map.mp among
    obtain ⟨right, inside', rfl⟩ := List.mem_map.mp among'
    have consistent : resolvent.Consistent :=
      ((formed.consistent left inside).map (same left inside)).consensus
        ((formed.consistent right inside').map (same right inside')) found
    have free : resolvent.NaNFree := by
      intro literal member
      rcases Clause.mem_of_mem_consensus found member with member | member
      · exact Clause.NaNFree.map (same left inside) literal (Clause.mem_unopposed.mp member).1
      · exact Clause.NaNFree.map (same right inside') literal (Clause.mem_unopposed.mp member).1
    have enough : ∀ assignment, resolvent.value assignment = true →
        expression.value assignment = true := by
      intro assignment holds
      refine (anyValue_eq_true assignment).mpr ?_
      rcases Clause.value_of_consensus found holds with holds | holds
      · exact ⟨left, inside, (Clause.same_map (same left inside)).value holds⟩
      · exact ⟨right, inside', (Clause.same_map (same right inside')).value holds⟩
    obtain ⟨kept, inside'', below⟩ := formed.exists_isSubset nanFree ⟨free, consistent, enough⟩
    exact ⟨kept.map f, List.mem_map_of_mem inside'',
      Clause.isSubset_trans (Clause.same_map (same kept inside'')).1 below⟩

theorem Expression.Formed.complete (formed : expression.Formed) (nanFree : expression.NaNFree) :
    Complete expression.clauses := by
  have complete := formed.complete_map nanFree fun clause inside literal member =>
    (id literal).beq_self_iff.mpr (nanFree clause inside literal member)
  simpa using complete

/-! ### Joining again -/

theorem Clause.Consistent.extendAll?_singleton (consistent : Clause.Consistent (front ++ [literal])) :
    front.extendAll? [literal] = some (front ++ [literal]) := by
  obtain ⟨-, -, across⟩ := List.pairwise_append.mp consistent
  have open' : front.any (·.isComplement literal) = false :=
    List.any_eq_false.mpr fun member inside => by
      rw [(across member inside literal List.mem_cons_self).2]
      exact Bool.false_ne_true
  have absent : front.contains literal = false := by
    rw [Bool.eq_false_iff]
    intro contained
    obtain ⟨member, inside, equal⟩ := List.contains_iff_exists_mem_beq.mp contained
    have differ := (across member inside literal List.mem_cons_self).1
    rw [BEq.symm equal] at differ
    cases differ
  rw [extendAll?_cons, Clause.extend?, open', if_neg Bool.false_ne_true, Clause.add, absent,
    if_neg Bool.false_ne_true]
  rfl

theorem expandWithin_map_single {literals : List Literal}
    (consistent : Clause.Consistent (front ++ literals)) :
    expandWithin limit [front] (literals.map single) = .ok [front ++ literals] := by
  induction literals generalizing front with
  | nil =>
    rw [List.append_nil]
    rfl
  | cons literal literals ih =>
    have shape : front ++ literal :: literals = front ++ [literal] ++ literals := by simp
    rw [shape] at consistent ⊢
    have first := (consistent.sublist (List.sublist_append_left _ _)).extendAll?_singleton
    have joins : joinWithin limit [front] (single literal) = .ok [front ++ [literal]] := by
      show Except.ok ([front].filterMap (·.extendAll? [literal])) = _
      rw [List.filterMap_cons, first]
      rfl
    rw [List.map_cons, expandWithin, joins]
    exact ih consistent

/-- **Joining the literals of a clause gives the clause.** -/
theorem conjWithin_map_single (consistent : clause.Consistent) (limit : Nat) :
    conjWithin limit (clause.map single) = .ok (ofClause clause) := by
  have expands : expandWithin limit [[]] (clause.map single) = .ok [clause] :=
    expandWithin_map_single consistent
  rw [conjWithin, expands]
  exact ofClausesWithin_singleton limit clause

theorem conj_map_single (consistent : clause.Consistent) :
    conj (clause.map single) = ofClause clause := by
  rw [conj, conjWithin_map_single consistent]
  rfl

theorem gatherWithin_map_ofClause (some' : [] ∉ clauses)
    (room : before.length + clauses.length ≤ limit) :
    gatherWithin limit before (clauses.map ofClause) = .ok (some (before ++ clauses)) := by
  induction clauses generalizing before with
  | nil => simp [gatherWithin]
  | cons clause clauses ih =>
    obtain ⟨first, rest⟩ := not_or.mp (mt List.mem_cons.mpr some')
    have noAlways : (ofClause clause).isAlways = false := by
      cases clause with
      | nil => exact absurd rfl first
      | cons => rfl
    have noNever : (ofClause clause).isNever = false := rfl
    have counted : appendWithin limit before [clause] = .ok (before ++ [clause]) := by
      rw [appendWithin_eq, if_pos (Or.inr _)]
      simp only [List.length_cons, List.length_nil] at room ⊢
      omega
    have shape : before ++ clause :: clauses = before ++ [clause] ++ clauses := by simp
    rw [List.map_cons, gatherWithin, noAlways, noNever, shape]
    have rest := @ih (before ++ [clause]) rest (by
      simp only [List.length_append, List.length_cons, List.length_nil] at room ⊢
      omega)
    simp only [Bool.false_eq_true, if_false, ofClause, counted]
    exact rest

/-- **Joining complete clauses gives these clauses.** -/
theorem disjWithin_map_ofClause (complete : Complete clauses) (some' : [] ∉ clauses)
    (room : clauses.length ≤ limit) :
    disjWithin limit (clauses.map ofClause) = .ok ⟨clauses⟩ := by
  have gathers : gatherWithin limit [] (clauses.map ofClause) = .ok (some clauses) :=
    gatherWithin_map_ofClause some' (by simpa using room)
  rw [disjWithin, gathers]
  exact complete.ofClausesWithin limit

theorem disj_map_ofClause (complete : Complete clauses) (some' : [] ∉ clauses) :
    disj (clauses.map ofClause) = ⟨clauses⟩ := by
  have held : (clauses.map ofClause).flatMap (·.clauses) = clauses := by
    simp [List.flatMap_map, ofClause]
  have room : clauses.length ≤ ceiling (clauses.map ofClause) := by
    rw [ceiling_eq, held]
    exact Nat.le_add_right _ _
  rw [disj, disjWithin_map_ofClause complete some' room]
  rfl

/-- A constant by itself is joined to itself. -/
theorem conjWithin_ofBool (limit : Nat) (holds : Bool) :
    conjWithin limit [ofBool holds] = .ok (ofBool holds) := by
  cases holds with
  | true => exact ofClausesWithin_singleton limit []
  | false =>
    show Expression.ofClausesWithin limit [] = _
    exact Complete.ofClausesWithin ⟨List.Pairwise.nil, nofun⟩ limit

theorem disjWithin_ofBool (limit : Nat) (holds : Bool) :
    disjWithin limit [ofBool holds] = .ok (ofBool holds) := by
  cases holds with
  | true => rfl
  | false =>
    show Expression.ofClausesWithin limit [] = _
    exact Complete.ofClausesWithin ⟨List.Pairwise.nil, nofun⟩ limit

end WhenClause

/-
**Operands in another order and in other groups.**

Joins multiply out, close and absorb clauses in the order of their operands, and a nested join does
so for its own operands first. None of that shows in the result but in the order of its clauses: the
result of nested joins has the value of the operands together, whatever the nesting, and canonical
forms of one value are equal.

* `Grouped`: what nested calls of one join return, with the operands of all of them;
* `Grouped.value`: the value of what they return is decided by the operands;
* `regrouped_joins_beq`: so it is the same, up to `==`, for operands that are the same up to order,
  repetition and `==`.
-/

import WhenClause.Proofs.Negation
import WhenClause.Regex.Engine

namespace WhenClause

open Expression

section Engine

variable [PatternEngine]
variable {known : Facts → Prop} {expression result result' : Expression}
  {operands operands' : List Expression} {decisive : Bool}
  {returns : List Expression → Expression → Prop}

/-! ### Nested joins -/

/-- What nested calls of a join return: each of them joins operands and what other calls returned.
The operands of all calls are listed from left to right. -/
inductive Grouped (returns : List Expression → Expression → Prop) :
    List Expression → Expression → Prop where
  | operand (expression : Expression) : Grouped returns [expression] expression
  | join {parts : List (List Expression × Expression)} {result : Expression}
      (each : ∀ part ∈ parts, Grouped returns part.1 part.2)
      (returned : returns (parts.map Prod.snd) result) :
      Grouped returns (parts.flatMap Prod.fst) result

/-- One call that joins all operands. -/
theorem Grouped.all (returned : returns operands result) : Grouped returns operands result := by
  have joins := @Grouped.join _ returns (operands.map fun operand => ([operand], operand)) result
    (List.forall_mem_map.mpr fun operand _ => .operand operand)
    (by simpa [Function.comp_def] using returned)
  simpa [List.flatMap_map] using joins

/-- Each of some operands is one of others, or equal to one of them. -/
def Matched (operands operands' : List Expression) : Prop :=
  ∀ operand ∈ operands, ∃ operand' ∈ operands', operand = operand' ∨ (operand == operand') = true

/-- The operands are the same but for their order, for repetitions, and for equal operands in place
of each other. -/
structure SameOperands (operands operands' : List Expression) : Prop where
  forward : Matched operands operands'
  backward : Matched operands' operands

/-! ### What nested joins return -/

/-- A join of canonical forms gives such a form again, and one without NaN if they have none. Its
value is the decisive one exactly if the value of an operand is. -/
structure Decided (returns : List Expression → Expression → Prop) (decisive : Bool) : Prop where
  formed : ∀ {operands result}, (∀ operand ∈ operands, operand.Formed) →
    returns operands result → result.Formed
  nanFree : ∀ {operands result}, (∀ operand ∈ operands, operand.NaNFree) →
    returns operands result → result.NaNFree
  value : ∀ {operands result}, (∀ operand ∈ operands, operand.Formed) →
    returns operands result → ∀ assignment, result.value assignment = decisive ↔
      ∃ operand ∈ operands, operand.value assignment = decisive

/-- An operand that fails decides a conjunction. -/
theorem decided_conj : Decided ConjReturns false where
  formed formed := fun ⟨_, run⟩ => kept_formed.conjWithin formed run
  nanFree nanFree := fun ⟨_, run⟩ => kept_nanFree.conjWithin nanFree run
  value _ := by
    rintro ⟨_, run⟩ assignment
    simp [value_conjWithin assignment run]

/-- An operand that holds decides a disjunction. -/
theorem decided_disj : Decided DisjReturns true where
  formed formed := fun ⟨_, run⟩ => kept_formed.disjWithin formed run
  nanFree nanFree := fun ⟨_, run⟩ => kept_nanFree.disjWithin nanFree run
  value formed := by
    rintro ⟨_, run⟩ assignment
    rw [value_disjWithin assignment (fun operand among => (formed operand among).consistent) run,
      List.any_eq_true]

namespace Grouped

variable (grouped : Grouped returns operands result)

include grouped

theorem formed (decided : Decided returns decisive)
    (formed : ∀ operand ∈ operands, operand.Formed) : result.Formed := by
  induction grouped with
  | operand expression => exact formed _ (List.mem_singleton_self _)
  | join _ returned ih =>
    refine decided.formed (List.forall_mem_map.mpr fun part among => ih part among ?_) returned
    exact fun operand inside => formed operand (List.mem_flatMap.mpr ⟨part, among, inside⟩)

theorem nanFree (decided : Decided returns decisive)
    (nanFree : ∀ operand ∈ operands, operand.NaNFree) : result.NaNFree := by
  induction grouped with
  | operand expression => exact nanFree _ (List.mem_singleton_self _)
  | join _ returned ih =>
    refine decided.nanFree (List.forall_mem_map.mpr fun part among => ih part among ?_) returned
    exact fun operand inside => nanFree operand (List.mem_flatMap.mpr ⟨part, among, inside⟩)

/-- **Nested joins are decided by their operands**, as one join of them is. -/
theorem value (decided : Decided returns decisive) (formed : ∀ operand ∈ operands, operand.Formed)
    (assignment : Assignment) :
    result.value assignment = decisive ↔
      ∃ operand ∈ operands, operand.value assignment = decisive := by
  induction grouped with
  | operand expression => simp
  | @join parts result each returned ih =>
    have within : ∀ part ∈ parts, ∀ operand ∈ part.1, operand.Formed := fun part among operand
      inside => formed operand (List.mem_flatMap.mpr ⟨part, among, inside⟩)
    have parts' : ∀ operand ∈ parts.map Prod.snd, operand.Formed :=
      List.forall_mem_map.mpr fun part among =>
        (each part among).formed decided (within part among)
    rw [decided.value parts' returned assignment]
    constructor
    · rintro ⟨_, among, decides⟩
      obtain ⟨part, inside, rfl⟩ := List.mem_map.mp among
      obtain ⟨operand, member, decides'⟩ := (ih part inside (within part inside)).mp decides
      exact ⟨operand, List.mem_flatMap.mpr ⟨part, inside, member⟩, decides'⟩
    · rintro ⟨operand, among, decides⟩
      obtain ⟨part, inside, member⟩ := List.mem_flatMap.mp among
      exact ⟨part.2, List.mem_map_of_mem inside,
        (ih part inside (within part inside)).mpr ⟨operand, member, decides⟩⟩

end Grouped

/-! ### The same operands -/

/-- A canonical form that equals another one has no NaN. -/
theorem nanFree_of_beq (formed : result.Formed) (formed' : result'.Formed)
    (equal : (result == result') = true) : result.NaNFree := by
  intro clause inside literal member
  obtain ⟨_, _, same⟩ := ((beq_iff_same formed formed').mp equal).1 clause inside
  exact Clause.hasNaN_of_contains (Clause.isSubset_iff.mp same.1 literal member)

namespace Matched

variable (matched : Matched operands operands') (formed : ∀ operand ∈ operands, operand.Formed)
  (formed' : ∀ operand ∈ operands', operand.Formed)

include matched formed formed'

theorem nanFree (nanFree : ∀ operand ∈ operands', operand.NaNFree) :
    ∀ operand ∈ operands, operand.NaNFree := by
  intro operand among
  obtain ⟨operand', among', rfl | equal⟩ := matched operand among
  · exact nanFree operand among'
  · exact nanFree_of_beq (formed operand among) (formed' operand' among') equal

/-- What decides a join is among the operands that match. -/
theorem decides {assignment : Assignment}
    (decides : ∃ operand ∈ operands, operand.value assignment = decisive) :
    ∃ operand ∈ operands', operand.value assignment = decisive := by
  obtain ⟨operand, among, value⟩ := decides
  obtain ⟨operand', among', rfl | equal⟩ := matched operand among
  · exact ⟨operand, among', value⟩
  · refine ⟨operand', among', ?_⟩
    rw [← value_eq_of_beq (formed operand among) (formed' operand' among') equal, value]

end Matched

/-- **Nested joins of the same operands are equal.** -/
theorem Decided.beq (decided : Decided returns decisive) (same : SameOperands operands operands')
    (formed : ∀ operand ∈ operands, operand.Formed)
    (formed' : ∀ operand ∈ operands', operand.Formed)
    (nanFree : ∀ operand ∈ operands, operand.NaNFree) (grouped : Grouped returns operands result)
    (grouped' : Grouped returns operands' result') : (result == result') = true := by
  have nanFree' := same.backward.nanFree formed' formed nanFree
  refine beq_of_value_eq (grouped.formed decided formed) (grouped'.formed decided formed')
    (grouped.nanFree decided nanFree) (grouped'.nanFree decided nanFree') fun assignment => ?_
  have decisions : result.value assignment = decisive ↔ result'.value assignment = decisive := by
    rw [grouped.value decided formed, grouped'.value decided formed']
    exact ⟨same.forward.decides formed formed', same.backward.decides formed' formed⟩
  cases decisive <;> grind

/-- **Joins depend on nothing but the set of their operands.** Nested conjunctions of the same
operands are equal, whatever their order, repetitions and groups, and also where equal operands
stand in for each other; and so are nested disjunctions. Without NaN every call in them returns. -/
theorem regrouped_joins_beq (built : ∀ operand ∈ operands, Built known operand)
    (built' : ∀ operand ∈ operands', Built known operand)
    (nanFree : ∀ operand ∈ operands, operand.NaNFree) (same : SameOperands operands operands') :
    ((∀ result result', Grouped ConjReturns operands result →
        Grouped ConjReturns operands' result' → (result == result') = true) ∧
      ∀ result result', Grouped DisjReturns operands result →
        Grouped DisjReturns operands' result' → (result == result') = true) ∧
    ∀ parts : List (List Expression × Expression),
      (∀ part ∈ parts, part.1 ⊆ operands ++ operands') →
      ((∀ part ∈ parts, Grouped ConjReturns part.1 part.2) →
        ConjReturns (parts.map Prod.snd) (conj (parts.map Prod.snd))) ∧
      ((∀ part ∈ parts, Grouped DisjReturns part.1 part.2) →
        DisjReturns (parts.map Prod.snd) (disj (parts.map Prod.snd))) := by
  have formed : ∀ operand ∈ operands, operand.Formed := fun operand among =>
    (built operand among).formed
  have formed' : ∀ operand ∈ operands', operand.Formed := fun operand among =>
    (built' operand among).formed
  have nanFree' := same.backward.nanFree formed' formed nanFree
  have all' : ∀ operand ∈ operands ++ operands', operand.NaNFree :=
    List.forall_mem_append.mpr ⟨nanFree, nanFree'⟩
  refine ⟨⟨fun _ _ => decided_conj.beq same formed formed' nanFree,
    fun _ _ => decided_disj.beq same formed formed' nanFree⟩, fun parts within => ⟨?_, ?_⟩⟩
  · intro each
    exact conjReturns_conj (List.forall_mem_map.mpr fun part among =>
      (each part among).nanFree decided_conj fun operand inside =>
        all' operand (within part among inside))
  · intro each
    exact disjReturns_disj (List.forall_mem_map.mpr fun part among =>
      (each part among).nanFree decided_disj fun operand inside =>
        all' operand (within part among inside))

end Engine

/-- Neither the groups and the repetition of `(n == -0 && a) && a` show, nor the sign of the zero: it
equals `a && n == 0`. -/
theorem regrouped_joins_signed_zero :
    (conj [conj [equals none "n" (.number ⟨true, 0⟩), has none "a"], has none "a"] ==
      conj [has none "a", equals none "n" (.number Double.zero)]) = true := by
  have builtZero : ∀ zero, Built (· = none) (equals none "n" (.number zero)) := fun _ =>
    @Built.ofTest _ (· = none) none rfl _ _
  have builtKey : Built (· = none) (has none "a") := @Built.ofTest _ (· = none) none rfl _ _
  have innerNaNFree : ∀ operand ∈ [equals none "n" (.number ⟨true, 0⟩), has none "a"],
      operand.NaNFree := by decide
  have nested : Grouped ConjReturns
      [equals none "n" (.number ⟨true, 0⟩), has none "a", has none "a"]
      (conj [conj [equals none "n" (.number ⟨true, 0⟩), has none "a"], has none "a"]) :=
    @Grouped.join _ _ [([_, _], _), ([_], _)] _
      (forall_mem_pair (.all (conjReturns_conj innerNaNFree)) (.operand _))
      (conjReturns_conj (forall_mem_pair (kept_nanFree.conj innerNaNFree) (by decide)))
  have plain : Grouped ConjReturns [has none "a", equals none "n" (.number Double.zero)]
      (conj [has none "a", equals none "n" (.number Double.zero)]) :=
    .all (conjReturns_conj (by decide))
  have zeros : (equals none "n" (.number ⟨true, 0⟩) == equals none "n" (.number Double.zero)) =
      true := by decide
  have zeros' : (equals none "n" (.number Double.zero) == equals none "n" (.number ⟨true, 0⟩)) =
      true := by decide
  have same : SameOperands [equals none "n" (.number ⟨true, 0⟩), has none "a", has none "a"]
      [has none "a", equals none "n" (.number Double.zero)] := by
    constructor <;> simp [Matched, zeros, zeros']
  exact (@regrouped_joins_beq _ (· = none) _ _
    (List.forall_mem_cons.mpr ⟨builtZero _, forall_mem_pair builtKey builtKey⟩)
    (forall_mem_pair builtKey (builtZero _)) (by decide) same).1.1 _ _ nested plain

end WhenClause

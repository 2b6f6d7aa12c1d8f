/-
**Conjunction and disjunction.**

Both joins bring clauses into canonical form by `ofClausesWithin`: the conjunction those that it is
multiplied out to, the disjunction those of its operands. What is true of these clauses, which
literals they have and that they are consistent carries over to the result.

* `conjWithin_eq_ok`, `disjWithin_eq_ok`: which clauses these are;
* `value_conjWithin`, `value_disjWithin`: a join has the value of its operands together;
* `subset_conjWithin`, `subset_disjWithin`: it has no other literals than its operands.
-/

import WhenClause.Proofs.Product

namespace WhenClause

variable [PatternEngine]
variable {clause : Clause} {literal : Literal} {clauses expanded : List Clause}
  {expression result : Expression} {operands : List Expression} {limit : Nat}

/-! ### The canonical form of some clauses -/

/-- The canonical form is what is minimal in the closure. -/
theorem ofClausesWithin_eq_ok (run : Expression.ofClausesWithin limit clauses = .ok result) :
    ∃ closed, closeWithin limit [] clauses = .ok closed ∧ result.clauses = minimal closed := by
  obtain ⟨closed, closes, same⟩ := bind_eq_ok.mp run
  cases same
  exact ⟨closed, closes, rfl⟩

theorem consistent_closeWithin {closed : List Clause}
    (consistent : ∀ clause ∈ clauses, clause.Consistent)
    (run : closeWithin limit [] clauses = .ok closed) : ∀ clause ∈ closed, clause.Consistent := by
  have derived := (closing_of_closeWithin run).derived
  rw [List.append_nil] at derived
  exact fun clause member => (derived clause member).consistent consistent

/-- **The canonical form has the value of the clauses.** -/
theorem value_ofClausesWithin (assignment : Assignment)
    (consistent : ∀ clause ∈ clauses, clause.Consistent)
    (run : Expression.ofClausesWithin limit clauses = .ok result) :
    result.value assignment = anyValue assignment clauses := by
  obtain ⟨closed, closes, same⟩ := ofClausesWithin_eq_ok run
  have consistent' := consistent_closeWithin consistent closes
  rw [Expression.value, same, anyValue_minimal assignment consistent',
    anyValue_closeWithin assignment closes]

theorem consistent_ofClausesWithin (consistent : ∀ clause ∈ clauses, clause.Consistent)
    (run : Expression.ofClausesWithin limit clauses = .ok result) :
    ∀ clause ∈ result.clauses, clause.Consistent := by
  obtain ⟨closed, closes, same⟩ := ofClausesWithin_eq_ok run
  rw [same]
  exact fun clause member =>
    consistent_closeWithin consistent closes clause ((minimal_sublist closed).subset member)

/-- The canonical form has no other literals than the clauses. -/
theorem mem_ofClausesWithin (run : Expression.ofClausesWithin limit clauses = .ok result)
    (inside : clause ∈ result.clauses) (member : literal ∈ clause) :
    ∃ given ∈ clauses, literal ∈ given := by
  obtain ⟨closed, closes, same⟩ := ofClausesWithin_eq_ok run
  have derived := (closing_of_closeWithin closes).derived
  rw [List.append_nil] at derived
  rw [same] at inside
  exact (derived clause ((minimal_sublist closed).subset inside)).exists_mem member

/-- A clause by itself is its canonical form. -/
theorem ofClausesWithin_singleton (limit : Nat) (clause : Clause) :
    Expression.ofClausesWithin limit [clause] = .ok (Expression.ofClause clause) := by
  have closes : closeWithin limit [] [clause] = .ok [clause] := by
    have nothing : appendWithin limit ([] ++ [clause]) (newConsensus [] ([] ++ [clause]) clause) =
        .ok [clause] := rfl
    rw [closeWithin_cons_of_ok nothing]
    exact closeWithin.eq_1 limit [clause]
  rw [Expression.ofClausesWithin, closes]
  rfl

/-! ### What is joined -/

/-- The literals of some expressions. -/
def literalsOf (operands : List Expression) : List Literal := (operands.flatMap (·.clauses)).flatten

theorem mem_literalsOf :
    literal ∈ literalsOf operands ↔
      ∃ operand ∈ operands, ∃ clause ∈ operand.clauses, literal ∈ clause := by
  simp only [literalsOf, List.mem_flatten, List.mem_flatMap]
  constructor
  · rintro ⟨clause, ⟨operand, among, inside⟩, member⟩
    exact ⟨operand, among, clause, inside, member⟩
  · rintro ⟨operand, among, clause, inside, member⟩
    exact ⟨clause, ⟨operand, among, inside⟩, member⟩

theorem Expression.eq_always_of_isAlways (holds : expression.isAlways = true) :
    expression = always := by
  obtain ⟨clauses⟩ := expression
  unfold isAlways at holds
  split at holds
  · rename_i only
    exact congrArg mk only
  · cases holds

/-- Multiplying out brings no other literals than those of the operands. -/
theorem subset_expandWithin (run : expandWithin limit [[]] operands = .ok expanded) :
    ∀ clause ∈ expanded, clause ⊆ literalsOf operands := by
  refine forall_mem_expandWithin (fun clause subset operand among term inside product found => ?_)
    (List.forall_mem_singleton.mpr (List.nil_subset _)) run
  intro literal member
  rcases Clause.mem_extendAll? found member with old | new
  · exact subset old
  · exact mem_literalsOf.mpr ⟨operand, among, term, inside, new⟩

/-- **What a conjunction is multiplied out to**: consistent clauses with literals of the operands,
whose value is that of all operands. -/
theorem conjWithin_eq_ok (run : Expression.conjWithin limit operands = .ok result) :
    ∃ clauses, Expression.ofClausesWithin limit clauses = .ok result ∧
      (∀ clause ∈ clauses, clause.Consistent) ∧
      (∀ clause ∈ clauses, clause ⊆ literalsOf operands) ∧
      ∀ assignment, anyValue assignment clauses = operands.all (·.value assignment) := by
  obtain ⟨expanded, expands, joins⟩ := bind_eq_ok.mp run
  refine ⟨expanded, joins, ?_, subset_expandWithin expands, fun assignment => ?_⟩
  · refine forall_mem_expandWithin (fun clause consistent _ _ _ _ product found => ?_) ?_ expands
    · exact consistent.extendAll? found
    · exact List.forall_mem_singleton.mpr Clause.consistent_nil
  · rw [value_expandWithin assignment expands]
    rfl

/-- What a disjunction gathers: all clauses, unless an operand always holds. -/
theorem gatherWithin_eq_ok {outcome : Option (List Clause)}
    (run : gatherWithin limit clauses operands = .ok outcome) :
    outcome = none ∧ Expression.always ∈ operands ∨
      outcome = some (clauses ++ operands.flatMap (·.clauses)) := by
  induction operands generalizing clauses with
  | nil =>
    cases run
    exact Or.inr (by simp)
  | cons operand operands ih =>
    rw [gatherWithin] at run
    split at run
    · rename_i always
      cases run
      rw [Expression.eq_always_of_isAlways always]
      exact Or.inl ⟨rfl, List.mem_cons_self⟩
    split at run
    · rename_i never
      rw [Expression.isNever, List.isEmpty_iff] at never
      rcases ih run with ⟨rfl, inside⟩ | rfl
      · exact Or.inl ⟨rfl, List.mem_cons_of_mem _ inside⟩
      · exact Or.inr (by rw [List.flatMap_cons, never, List.nil_append])
    · obtain ⟨gathered, within, rest⟩ := bind_eq_ok.mp run
      obtain ⟨rfl, -⟩ := appendWithin_eq_ok within
      rcases ih rest with ⟨rfl, inside⟩ | rfl
      · exact Or.inl ⟨rfl, List.mem_cons_of_mem _ inside⟩
      · exact Or.inr (by rw [List.flatMap_cons, List.append_assoc])

theorem anyValue_flatMap (assignment : Assignment) (operands : List Expression) :
    anyValue assignment (operands.flatMap (·.clauses)) = operands.any (·.value assignment) := by
  simp only [anyValue, List.any_flatMap]
  rfl

/-- **What a disjunction gathers**: clauses of the operands, whose value is that of one of the
operands. -/
theorem disjWithin_eq_ok (run : Expression.disjWithin limit operands = .ok result) :
    ∃ clauses, Expression.ofClausesWithin limit clauses = .ok result ∧
      clauses ⊆ operands.flatMap (·.clauses) ∧
      ∀ assignment, anyValue assignment clauses = operands.any (·.value assignment) := by
  obtain ⟨outcome, gathers, joins⟩ := bind_eq_ok.mp run
  rcases gatherWithin_eq_ok gathers with ⟨rfl, inside⟩ | all
  · cases joins
    refine ⟨[[]], ofClausesWithin_singleton limit [], fun clause member => ?_, fun assignment => ?_⟩
    · exact List.mem_flatMap.mpr ⟨Expression.always, inside, member⟩
    · rw [eq_comm]
      exact List.any_eq_true.mpr ⟨Expression.always, inside, rfl⟩
  · rw [List.nil_append] at all
    subst all
    exact ⟨_, joins, List.Subset.refl _, fun assignment => anyValue_flatMap assignment operands⟩

/-! ### What the results are -/

/-- **A conjunction has the value of its operands together.** -/
theorem value_conjWithin (assignment : Assignment)
    (run : Expression.conjWithin limit operands = .ok result) :
    result.value assignment = operands.all (·.value assignment) := by
  obtain ⟨clauses, joins, consistent, -, value⟩ := conjWithin_eq_ok run
  rw [value_ofClausesWithin assignment consistent joins, value]

/-- The clauses of consistent operands, all together. -/
theorem consistent_of_subset
    (consistent : ∀ operand ∈ operands, ∀ clause ∈ operand.clauses, clause.Consistent)
    (subset : clauses ⊆ operands.flatMap (·.clauses)) : ∀ clause ∈ clauses, clause.Consistent := by
  intro clause member
  obtain ⟨operand, among, inside⟩ := List.mem_flatMap.mp (subset member)
  exact consistent operand among clause inside

/-- **A disjunction has the value of its operands together.** -/
theorem value_disjWithin (assignment : Assignment)
    (consistent : ∀ operand ∈ operands, ∀ clause ∈ operand.clauses, clause.Consistent)
    (run : Expression.disjWithin limit operands = .ok result) :
    result.value assignment = operands.any (·.value assignment) := by
  obtain ⟨clauses, joins, subset, value⟩ := disjWithin_eq_ok run
  rw [value_ofClausesWithin assignment (consistent_of_subset consistent subset) joins, value]

/-- **A conjunction has no other literals than its operands.** -/
theorem subset_conjWithin (run : Expression.conjWithin limit operands = .ok result) :
    ∀ clause ∈ result.clauses, clause ⊆ literalsOf operands := by
  obtain ⟨clauses, joins, -, subset, -⟩ := conjWithin_eq_ok run
  intro clause inside literal member
  obtain ⟨given, among, old⟩ := mem_ofClausesWithin joins inside member
  exact subset given among old

/-- **A disjunction has no other literals than its operands.** -/
theorem subset_disjWithin (run : Expression.disjWithin limit operands = .ok result) :
    ∀ clause ∈ result.clauses, clause ⊆ literalsOf operands := by
  obtain ⟨clauses, joins, subset, -⟩ := disjWithin_eq_ok run
  intro clause inside literal member
  obtain ⟨given, among, old⟩ := mem_ofClausesWithin joins inside member
  exact List.mem_flatten.mpr ⟨given, subset among, old⟩

end WhenClause

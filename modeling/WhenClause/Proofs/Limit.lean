/-
**Joins within limits.**

A limit can only stop a join, not change it (`conjWithin_mono`, `disjWithin_mono`), so what the join
without a limit returns is what it does within any limit that is great enough (`ConjReturns`,
`DisjReturns`). Without NaN the `ceiling` is:

* `Fresh.length_le`: of clauses made of `n` literals, none including one before it, there are at
  most `2 ^ n`;
* `closeWithin_ends`, `expandWithin_ends`, `gatherWithin_ends`: so each part of a join ends;
* `conjWithin_eq_conj`, `disjWithin_eq_disj`: so the whole join does, within the ceiling.

And a limit bounds what a disjunction returns (`length_disjWithin_le`).
-/

import Mathlib.Algebra.Group.Nat.Defs
import Mathlib.Data.List.Sublists
import WhenClause.Proofs.Join

namespace WhenClause

variable [PatternEngine]
variable {clause : Clause} {clauses expanded : List Clause} {result : Expression}
  {operands : List Expression} {limit limit' : Nat}

/-! ### Greater limits -/

section Greater

variable (le : limit ≤ limit')

include le

theorem checkWithin_mono {checked : List Clause} (run : checkWithin limit clauses = .ok checked) :
    checkWithin limit' clauses = .ok checked := by
  unfold checkWithin at run ⊢
  split at run
  · cases run
  · rw [if_neg (by omega)]
    exact run

theorem appendWithin_mono {more held : List Clause}
    (run : appendWithin limit clauses more = .ok held) :
    appendWithin limit' clauses more = .ok held := by
  obtain ⟨rfl, room⟩ := appendWithin_eq_ok run
  rw [appendWithin_eq, if_pos (room.imp_right fun room => Nat.le_trans room le)]

theorem addProductWithin_mono {kept kept' : List Clause} {factors : Clause × Clause}
    (run : addProductWithin limit kept factors = .ok kept') :
    addProductWithin limit' kept factors = .ok kept' := by
  unfold addProductWithin at run ⊢
  split at run
  · exact run
  split at run
  · rename_i covered
    rw [if_pos covered]
    exact run
  · rename_i apart
    rw [if_neg apart]
    exact checkWithin_mono le run

theorem foldlM_addProductWithin_mono {pairs : List (Clause × Clause)} {kept kept' : List Clause}
    (run : pairs.foldlM (addProductWithin limit) kept = .ok kept') :
    pairs.foldlM (addProductWithin limit') kept = .ok kept' := by
  induction pairs generalizing kept with
  | nil => exact run
  | cons factors pairs ih =>
    rw [List.foldlM_cons] at run ⊢
    obtain ⟨middle, first, rest⟩ := bind_eq_ok.mp run
    exact bind_eq_ok.mpr ⟨middle, addProductWithin_mono le first, ih rest⟩

theorem joinWithin_mono {operand : Expression} {joined : List Clause}
    (run : joinWithin limit clauses operand = .ok joined) :
    joinWithin limit' clauses operand = .ok joined := by
  unfold joinWithin at run ⊢
  split at run
  · exact run
  · exact run
  · exact foldlM_addProductWithin_mono le run

theorem expandWithin_mono (run : expandWithin limit clauses operands = .ok expanded) :
    expandWithin limit' clauses operands = .ok expanded := by
  induction operands generalizing clauses with
  | nil => exact run
  | cons operand operands ih =>
    rw [expandWithin] at run ⊢
    obtain ⟨middle, first, rest⟩ := bind_eq_ok.mp run
    refine bind_eq_ok.mpr ⟨middle, joinWithin_mono le first, ?_⟩
    split at rest
    · rename_i empty
      rw [if_pos empty]
      exact rest
    · rename_i some'
      rw [if_neg some']
      exact ih rest

theorem gatherWithin_mono {outcome : Option (List Clause)}
    (run : gatherWithin limit clauses operands = .ok outcome) :
    gatherWithin limit' clauses operands = .ok outcome := by
  induction operands generalizing clauses with
  | nil => exact run
  | cons operand operands ih =>
    rw [gatherWithin] at run ⊢
    split at run
    · rename_i always
      rw [if_pos always]
      exact run
    rename_i other
    rw [if_neg other]
    split at run
    · rename_i never
      rw [if_pos never]
      exact ih run
    · rename_i some'
      rw [if_neg some']
      obtain ⟨gathered, within, rest⟩ := bind_eq_ok.mp run
      exact bind_eq_ok.mpr ⟨gathered, appendWithin_mono le within, ih rest⟩

theorem closeWithin_mono {settled pending closed : List Clause}
    (run : closeWithin limit settled pending = .ok closed) :
    closeWithin limit' settled pending = .ok closed := by
  induction settled, pending using closeWithin.induct limit with
  | case1 settled =>
    rw [closeWithin] at run ⊢
    exact run
  | case2 settled clause rest added error counted =>
    rw [closeWithin_cons_of_error counted] at run
    cases run
  | case3 settled clause rest added held counted ih =>
    rw [closeWithin_cons_of_ok counted] at run
    rw [closeWithin_cons_of_ok (appendWithin_mono le counted)]
    exact ih run

theorem ofClausesWithin_mono (run : Expression.ofClausesWithin limit clauses = .ok result) :
    Expression.ofClausesWithin limit' clauses = .ok result := by
  obtain ⟨closed, closes, same⟩ := bind_eq_ok.mp run
  exact bind_eq_ok.mpr ⟨closed, closeWithin_mono le closes, same⟩

/-- **A conjunction within a limit is the same within every greater one.** -/
theorem conjWithin_mono (run : Expression.conjWithin limit operands = .ok result) :
    Expression.conjWithin limit' operands = .ok result := by
  obtain ⟨expanded, expands, joins⟩ := bind_eq_ok.mp run
  exact bind_eq_ok.mpr ⟨expanded, expandWithin_mono le expands, ofClausesWithin_mono le joins⟩

/-- **A disjunction within a limit is the same within every greater one.** -/
theorem disjWithin_mono (run : Expression.disjWithin limit operands = .ok result) :
    Expression.disjWithin limit' operands = .ok result := by
  obtain ⟨outcome, gathers, joins⟩ := bind_eq_ok.mp run
  refine bind_eq_ok.mpr ⟨outcome, gatherWithin_mono le gathers, ?_⟩
  cases outcome with
  | none => exact joins
  | some clauses => exact ofClausesWithin_mono le joins

end Greater

/-- What a conjunction without a limit returns: what it does within a limit that is great enough. -/
def Expression.ConjReturns (operands : List Expression) (result : Expression) : Prop :=
  ∃ limit, conjWithin limit operands = .ok result

/-- What a disjunction without a limit returns: what it does within a limit that is great enough. -/
def Expression.DisjReturns (operands : List Expression) (result : Expression) : Prop :=
  ∃ limit, disjWithin limit operands = .ok result

/-! ### How many clauses there are -/

/-- **Of clauses with `n` literals in all, none including one before it, there are at most
`2 ^ n`.** Each clause is told apart by the literals that it contains. -/
theorem Fresh.length_le {known added : List Clause} (fresh : Fresh known added)
    (pool : List Literal) (subset : ∀ clause ∈ added, clause ⊆ pool)
    (nanFree : ∀ clause ∈ added, clause.NaNFree) : added.length ≤ 2 ^ pool.length := by
  have apart : (added.map fun clause => pool.filter clause.contains).Nodup := by
    refine List.pairwise_map.mpr (fresh.added.imp_of_mem ?_)
    intro earlier later among _ none' same
    have included : Clause.isSubset earlier later = true := by
      refine Clause.isSubset_iff.mpr fun literal member => ?_
      have contained := Clause.contains_self member (nanFree earlier among literal member)
      have inside := List.mem_filter.mpr ⟨subset earlier among member, contained⟩
      rw [same] at inside
      exact (List.mem_filter.mp inside).2
    rw [included] at none'
    cases none'
  have parts : (added.map fun clause => pool.filter clause.contains) ⊆ pool.sublists := by
    intro part member
    obtain ⟨clause, -, rfl⟩ := List.mem_map.mp member
    exact List.mem_sublists.mpr List.filter_sublist
  have short := (apart.subperm parts).length_le
  rw [List.length_map, List.length_sublists] at short
  exact short

/-! ### Joins that end -/

/-- No literal of an expression names NaN. -/
def Expression.NaNFree (expression : Expression) : Prop :=
  ∀ clause ∈ expression.clauses, clause.NaNFree

instance (expression : Expression) : Decidable expression.NaNFree :=
  inferInstanceAs (Decidable (∀ clause ∈ expression.clauses, clause.NaNFree))

variable {pool : List Literal} {kept : List Clause}

/-- The closure of clauses without NaN ends. -/
theorem closeWithin_ends (nanFree : ∀ literal ∈ pool, literal.hasNaN = false)
    (subset : ∀ clause ∈ clauses, clause ⊆ pool)
    (room : clauses.length + 2 ^ pool.length ≤ limit) :
    ∃ closed, closeWithin limit [] clauses = .ok closed := by
  rcases closeWithin_run limit (Closing.start clauses) with
    ⟨closed, run, -⟩ | ⟨_, -, settled, pending, closing, many⟩
  · exact ⟨closed, run⟩
  · obtain ⟨added, same, fresh⟩ := closing.extends'
    have inside : ∀ clause ∈ added, clause ⊆ pool := by
      intro clause among literal member
      have derived := closing.derived clause (same ▸ List.mem_append_right _ among)
      obtain ⟨given, first, old⟩ := derived.exists_mem member
      exact subset given first old
    have short := fresh.length_le pool inside fun clause among literal member =>
      nanFree literal (inside clause among member)
    have total := congrArg List.length same
    rw [List.length_append, List.length_append] at total
    omega

/-- Multiplying out clauses without NaN ends, with no more clauses than there are sets of
literals. -/
theorem expandWithin_ends (nanFree : ∀ literal ∈ pool, literal.hasNaN = false)
    (subset : ∀ clause ∈ clauses, clause ⊆ pool)
    (subset' : ∀ operand ∈ operands, ∀ term ∈ operand.clauses, term ⊆ pool)
    (short : clauses.length ≤ 2 ^ pool.length) (room : 2 ^ pool.length ≤ limit) :
    ∃ expanded, expandWithin limit clauses operands = .ok expanded ∧
      expanded.length ≤ 2 ^ pool.length := by
  induction operands generalizing clauses with
  | nil => exact ⟨clauses, rfl, short⟩
  | cons operand operands ih =>
    obtain ⟨first, rest⟩ := List.forall_mem_cons.mp subset'
    have products : ∀ product : Clause, (∃ clause ∈ clauses, ∃ term ∈ operand.clauses,
        clause.extendAll? term = some product) → product ⊆ pool := by
      rintro product ⟨clause, inside, term, among, found⟩ literal member
      rcases Clause.mem_extendAll? found member with old | new
      · exact subset clause inside old
      · exact first term among new
    have few : ∀ kept, Fresh [] kept → (∀ product ∈ kept, ∃ clause ∈ clauses,
        ∃ term ∈ operand.clauses, clause.extendAll? term = some product) →
        kept.length ≤ 2 ^ pool.length := fun kept fresh made =>
      fresh.length_le pool (fun product among => products product (made product among))
        fun product among literal member =>
          nanFree literal (products product (made product among) member)
    rw [expandWithin]
    rcases joinWithin_run limit clauses operand with
      ⟨joined, run, spec⟩ | ⟨kept, -, fresh, many, made⟩
    · have shorter : joined.length ≤ 2 ^ pool.length :=
        spec.size.elim (Nat.le_trans · short) (few joined · spec.product)
      rw [run]
      by_cases empty : joined.isEmpty = true
      · exact ⟨[], if_pos empty, Nat.zero_le _⟩
      · obtain ⟨expanded, expands, size⟩ :=
          ih (fun product among => products product (spec.product product among)) rest shorter
        exact ⟨expanded, (if_neg empty).trans expands, size⟩
    · have := few kept fresh made
      omega

/-- Gathering ends where the limit has room for all clauses. -/
theorem gatherWithin_ends
    (room : clauses.length + (operands.flatMap (·.clauses)).length ≤ limit) :
    ∃ outcome, gatherWithin limit clauses operands = .ok outcome := by
  induction operands generalizing clauses with
  | nil => exact ⟨some clauses, rfl⟩
  | cons operand operands ih =>
    rw [List.flatMap_cons, List.length_append] at room
    rw [gatherWithin]
    split
    · exact ⟨none, rfl⟩
    split
    · exact ih (by omega)
    · have within : appendWithin limit clauses operand.clauses =
          .ok (clauses ++ operand.clauses) := by
        rw [appendWithin_eq, if_pos (Or.inr (by omega))]
      rw [within]
      exact ih (by rw [List.length_append]; omega)

/-! ### Joins within the ceiling -/

theorem hasNaN_literalsOf (nanFree : ∀ operand ∈ operands, operand.NaNFree) :
    ∀ literal ∈ literalsOf operands, literal.hasNaN = false := by
  intro literal member
  obtain ⟨operand, among, clause, inside, member⟩ := mem_literalsOf.mp member
  exact nanFree operand among clause inside literal member

theorem subset_literalsOf {operand : Expression} (among : operand ∈ operands) :
    ∀ clause ∈ operand.clauses, clause ⊆ literalsOf operands := fun clause inside _ member =>
  mem_literalsOf.mpr ⟨operand, among, clause, inside, member⟩

theorem ceiling_eq (operands : List Expression) :
    Expression.ceiling operands =
      (operands.flatMap (·.clauses)).length + 2 * 2 ^ (literalsOf operands).length := rfl

theorem settle_eq_of_ok {outcome : Except TooManyClauses Expression}
    (ends : ∃ result, outcome = .ok result) : outcome = .ok (Expression.settle outcome) := by
  obtain ⟨result, rfl⟩ := ends
  rfl

/-- The clauses of expressions without NaN have a canonical form within every limit that leaves room
for all sets of their literals. -/
theorem ofClausesWithin_ends (nanFree : ∀ operand ∈ operands, operand.NaNFree)
    (subset : ∀ clause ∈ clauses, clause ⊆ literalsOf operands)
    (room : clauses.length + 2 ^ (literalsOf operands).length ≤ limit) :
    ∃ result, Expression.ofClausesWithin limit clauses = .ok result := by
  obtain ⟨closed, closes⟩ := closeWithin_ends (hasNaN_literalsOf nanFree) subset room
  exact ⟨_, bind_eq_ok.mpr ⟨closed, closes, rfl⟩⟩

/-- **Without NaN a conjunction ends within the ceiling.** -/
theorem conjWithin_eq_conj (nanFree : ∀ operand ∈ operands, operand.NaNFree)
    (room : Expression.ceiling operands ≤ limit) :
    Expression.conjWithin limit operands = .ok (Expression.conj operands) := by
  refine conjWithin_mono room (settle_eq_of_ok ?_)
  have high := ceiling_eq operands
  have short : [([] : Clause)].length ≤ 2 ^ (literalsOf operands).length := Nat.one_le_two_pow
  have power : 2 ^ (literalsOf operands).length ≤ Expression.ceiling operands := by omega
  obtain ⟨expanded, expands, size⟩ := expandWithin_ends (hasNaN_literalsOf nanFree)
    (List.forall_mem_singleton.mpr (List.nil_subset _)) (fun operand => subset_literalsOf)
    short power
  have room' : expanded.length + 2 ^ (literalsOf operands).length ≤
      Expression.ceiling operands := by omega
  obtain ⟨result, joins⟩ := ofClausesWithin_ends nanFree (subset_expandWithin expands) room'
  exact ⟨result, bind_eq_ok.mpr ⟨expanded, expands, joins⟩⟩

/-- A disjunction ends within the ceiling if the clauses of its operands have a canonical form
there. -/
theorem disjWithin_eq_disj_of_ends
    (ends : ∃ result, Expression.ofClausesWithin (Expression.ceiling operands)
      (operands.flatMap (·.clauses)) = .ok result)
    (room : Expression.ceiling operands ≤ limit) :
    Expression.disjWithin limit operands = .ok (Expression.disj operands) := by
  refine disjWithin_mono room (settle_eq_of_ok ?_)
  have high := ceiling_eq operands
  have room' : ([] : List Clause).length + (operands.flatMap (·.clauses)).length ≤
      Expression.ceiling operands := by
    rw [List.length_nil]
    omega
  obtain ⟨outcome, gathers⟩ := gatherWithin_ends room'
  rcases gatherWithin_eq_ok gathers with ⟨rfl, -⟩ | rfl
  · exact ⟨_, bind_eq_ok.mpr ⟨none, gathers, rfl⟩⟩
  · obtain ⟨result, joins⟩ := ends
    exact ⟨result, bind_eq_ok.mpr ⟨_, gathers, joins⟩⟩

/-- **Without NaN a disjunction ends within the ceiling.** -/
theorem disjWithin_eq_disj (nanFree : ∀ operand ∈ operands, operand.NaNFree)
    (room : Expression.ceiling operands ≤ limit) :
    Expression.disjWithin limit operands = .ok (Expression.disj operands) := by
  refine disjWithin_eq_disj_of_ends (ofClausesWithin_ends nanFree (fun clause inside literal member =>
    List.mem_flatten.mpr ⟨clause, inside, member⟩) ?_) room
  have high := ceiling_eq operands
  omega

theorem conjReturns_conj (nanFree : ∀ operand ∈ operands, operand.NaNFree) :
    Expression.ConjReturns operands (Expression.conj operands) :=
  ⟨_, conjWithin_eq_conj nanFree (Nat.le_refl _)⟩

theorem disjReturns_disj (nanFree : ∀ operand ∈ operands, operand.NaNFree) :
    Expression.DisjReturns operands (Expression.disj operands) :=
  ⟨_, disjWithin_eq_disj nanFree (Nat.le_refl _)⟩

/-- Within any limit a conjunction has one result. -/
theorem eq_conj_of_conjWithin (nanFree : ∀ operand ∈ operands, operand.NaNFree)
    (run : Expression.conjWithin limit operands = .ok result) :
    result = Expression.conj operands := by
  have ends := conjWithin_eq_conj nanFree (Nat.le_max_right limit (Expression.ceiling operands))
  rw [conjWithin_mono (Nat.le_max_left _ _) run] at ends
  exact Except.ok.inj ends

/-- Within any limit a disjunction has one result. -/
theorem eq_disj_of_disjWithin (nanFree : ∀ operand ∈ operands, operand.NaNFree)
    (run : Expression.disjWithin limit operands = .ok result) :
    result = Expression.disj operands := by
  have ends := disjWithin_eq_disj nanFree (Nat.le_max_right limit (Expression.ceiling operands))
  rw [disjWithin_mono (Nat.le_max_left _ _) run] at ends
  exact Except.ok.inj ends

/-- A conjunction without NaN has the value of its operands together. -/
theorem value_conj (assignment : Assignment) (nanFree : ∀ operand ∈ operands, operand.NaNFree) :
    (Expression.conj operands).value assignment = operands.all (·.value assignment) :=
  value_conjWithin assignment (conjWithin_eq_conj nanFree (Nat.le_refl _))

/-- A disjunction without NaN has the value of its operands together. -/
theorem value_disj (assignment : Assignment)
    (consistent : ∀ operand ∈ operands, ∀ clause ∈ operand.clauses, clause.Consistent)
    (nanFree : ∀ operand ∈ operands, operand.NaNFree) :
    (Expression.disj operands).value assignment = operands.any (·.value assignment) :=
  value_disjWithin assignment consistent (disjWithin_eq_disj nanFree (Nat.le_refl _))

/-! ### Results within limits -/

theorem length_gatherWithin_le {gathered : List Clause} (room : clauses.length ≤ limit)
    (run : gatherWithin limit clauses operands = .ok (some gathered)) :
    gathered.length ≤ limit := by
  induction operands generalizing clauses with
  | nil =>
    cases run
    exact room
  | cons operand operands ih =>
    rw [gatherWithin] at run
    split at run
    · cases run
    split at run
    · exact ih room run
    · obtain ⟨gathered', within, rest⟩ := bind_eq_ok.mp run
      obtain ⟨rfl, nothing | room'⟩ := appendWithin_eq_ok within
      · rw [nothing, List.append_nil] at rest
        exact ih room rest
      · exact ih (by rwa [List.length_append]) rest

theorem length_closeWithin_le {settled pending closed : List Clause}
    (room : settled.length + pending.length ≤ limit)
    (run : closeWithin limit settled pending = .ok closed) : closed.length ≤ limit := by
  induction settled, pending using closeWithin.induct limit with
  | case1 settled =>
    rw [closeWithin] at run
    cases run
    exact room
  | case2 settled clause rest added error counted =>
    rw [closeWithin_cons_of_error counted] at run
    cases run
  | case3 settled clause rest added held counted ih =>
    rw [closeWithin_cons_of_ok counted] at run
    refine ih ?_ run
    rcases (appendWithin_eq_ok counted).2 with nothing | room'
    · simp only [nothing, List.length_append, List.length_cons, List.length_nil] at room ⊢
      omega
    · simp only [List.length_append, List.length_cons, List.length_nil] at room' ⊢
      omega

/-- **A disjunction within a limit keeps it**, unless it always holds: one clause says so within any
limit. -/
theorem length_disjWithin_le (run : Expression.disjWithin limit operands = .ok result) :
    result = Expression.always ∨ result.clauses.length ≤ limit := by
  obtain ⟨outcome, gathers, joins⟩ := bind_eq_ok.mp run
  cases outcome with
  | none =>
    cases joins
    exact .inl rfl
  | some clauses =>
    obtain ⟨closed, closes, same⟩ := ofClausesWithin_eq_ok joins
    have start : ([] : List Clause).length ≤ limit := Nat.zero_le limit
    have room : clauses.length ≤ limit := length_gatherWithin_le start gathers
    have room' : closed.length ≤ limit := length_closeWithin_le (by simpa using room) closes
    rw [same]
    exact .inr ((minimal_sublist closed).length_le.trans room')

end WhenClause

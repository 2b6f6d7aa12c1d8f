/-
**Multiplying out a conjunction.**

The clauses of a conjunction are joined with one operand after the other. `Joined` is what one such
join does, whether it multiplies clauses or adds to them: every clause is a product of a clause and
a term, every product is covered, and there are no more clauses than before unless all are fresh.

* `joinWithin_run`: a join ends so, or it stops with more fresh products than the limit allows;
* `value_expandWithin`: the clauses have the value of the conjunction;
* `forall_mem_expandWithin`: what holds of a clause and of its products holds of every clause.
-/

import WhenClause.Proofs.Closure

namespace WhenClause

theorem bind_eq_ok {ε α β : Type} {first : Except ε α} {next : α → Except ε β} {result : β} :
    first >>= next = .ok result ↔ ∃ middle, first = .ok middle ∧ next middle = .ok result := by
  cases first <;> simp [bind, Except.bind]

theorem bind_eq_error {ε α β : Type} {first : Except ε α} {next : α → Except ε β} {error : ε} :
    first >>= next = .error error ↔
      first = .error error ∨ ∃ middle, first = .ok middle ∧ next middle = .error error := by
  cases first <;> simp [bind, Except.bind]

variable [PatternEngine]
variable {clause term product : Clause} {clauses joined kept : List Clause} {operand : Expression}
  {operands : List Expression} {limit : Nat}

/-! ### Products -/

/-- The products kept of some pairs of factors: no product includes one before it, and every product
is covered. -/
structure Products (pairs : List (Clause × Clause)) (kept : List Clause) : Prop where
  product : ∀ clause ∈ kept, ∃ factors ∈ pairs, factors.1.extendAll? factors.2 = some clause
  covers : ∀ factors ∈ pairs, ∀ product, factors.1.extendAll? factors.2 = some product →
    Covered kept product
  fresh : Fresh [] kept

theorem Products.nil : Products [] [] := ⟨nofun, nofun, Fresh.nil⟩

/-- A pair whose product is covered already adds nothing. -/
theorem Products.skip {pairs : List (Clause × Clause)} (products : Products pairs kept)
    {factors : Clause × Clause}
    (covered : ∀ product, factors.1.extendAll? factors.2 = some product → Covered kept product) :
    Products (pairs ++ [factors]) kept := by
  refine ⟨fun clause member => ?_, fun pair inside => ?_, products.fresh⟩
  · obtain ⟨pair, inside, found⟩ := products.product clause member
    exact ⟨pair, List.mem_append_left _ inside, found⟩
  · rcases List.mem_append.mp inside with inside | last
    · exact products.covers pair inside
    · rw [List.mem_singleton.mp last]
      exact covered

/-- A product that includes none of those before it is added. -/
theorem Products.push {pairs : List (Clause × Clause)} (products : Products pairs kept)
    {factors : Clause × Clause} (found : factors.1.extendAll? factors.2 = some product)
    (apart : kept.any (Clause.isSubset · product) = false) :
    Products (pairs ++ [factors]) (kept ++ [product]) := by
  refine ⟨fun clause member => ?_, fun pair inside other found' => ?_,
    products.fresh.append (Fresh.singleton apart)⟩
  · rcases List.mem_append.mp member with member | last
    · obtain ⟨pair, inside, old⟩ := products.product clause member
      exact ⟨pair, List.mem_append_left _ inside, old⟩
    · rw [List.mem_singleton.mp last]
      exact ⟨factors, by simp, found⟩
  · rcases List.mem_append.mp inside with inside | last
    · exact (products.covers pair inside other found').mono (List.subset_append_left _ _)
    · rw [List.mem_singleton.mp last] at found'
      obtain rfl := Option.some.inj (found.symm.trans found')
      exact Covered.of_mem (by simp)

/-- One more pair of factors: its product is taken in, or there is one clause too many. -/
theorem addProductWithin_step (limit : Nat) {pairs : List (Clause × Clause)}
    (products : Products pairs kept) (factors : Clause × Clause) :
    ∃ kept', Products (pairs ++ [factors]) kept' ∧
      (addProductWithin limit kept factors = .ok kept' ∨
        addProductWithin limit kept factors = .error ⟨limit, kept'.length⟩ ∧
          limit < kept'.length) := by
  unfold addProductWithin
  split
  · rename_i none'
    refine ⟨kept, products.skip fun product found => ?_, Or.inl rfl⟩
    rw [none'] at found
    cases found
  rename_i product found
  split
  · rename_i covered
    refine ⟨kept, products.skip fun other found' => ?_, Or.inl rfl⟩
    obtain rfl := Option.some.inj (found.symm.trans found')
    obtain ⟨first, among, below⟩ := List.any_eq_true.mp covered
    exact ⟨first, among, Or.inr below⟩
  · rename_i apart
    refine ⟨kept ++ [product], products.push found (by simpa using apart), ?_⟩
    unfold checkWithin
    split
    · exact Or.inr ⟨rfl, ‹_›⟩
    · exact Or.inl rfl

/-- All pairs of factors: their products are kept, or those of some of them are too many. -/
theorem foldlM_addProductWithin (limit : Nat) (pairs rest : List (Clause × Clause))
    (products : Products pairs kept) :
    (∃ kept', rest.foldlM (addProductWithin limit) kept = .ok kept' ∧
        Products (pairs ++ rest) kept') ∨
      ∃ some' kept', rest.foldlM (addProductWithin limit) kept = .error ⟨limit, kept'.length⟩ ∧
        some' ⊆ pairs ++ rest ∧ Products some' kept' ∧ limit < kept'.length := by
  induction rest generalizing pairs kept with
  | nil => exact Or.inl ⟨kept, rfl, by rw [List.append_nil]; exact products⟩
  | cons factors rest ih =>
    obtain ⟨next, products', outcome⟩ := addProductWithin_step limit products factors
    rw [List.foldlM_cons]
    rcases outcome with step | ⟨step, many⟩
    · rw [step]
      have further := ih (pairs ++ [factors]) products'
      rw [List.append_assoc] at further
      exact further
    · rw [step]
      refine Or.inr ⟨_, next, rfl, ?_, products', many⟩
      exact List.append_subset.mpr ⟨List.subset_append_left _ _, by simp⟩

/-! ### One join -/

/-- What joining clauses with the terms of an operand does. -/
structure Joined (clauses : List Clause) (operand : Expression) (joined : List Clause) : Prop where
  product : ∀ product ∈ joined, ∃ clause ∈ clauses, ∃ term ∈ operand.clauses,
    clause.extendAll? term = some product
  covers : ∀ clause ∈ clauses, ∀ term ∈ operand.clauses, ∀ product,
    clause.extendAll? term = some product → Covered joined product
  size : joined.length ≤ clauses.length ∨ Fresh [] joined

/-- Each clause with each term. -/
def pairings (clauses terms : List Clause) : List (Clause × Clause) :=
  clauses.flatMap fun clause => terms.map (clause, ·)

theorem mem_pairings {factors : Clause × Clause} {terms : List Clause} :
    factors ∈ pairings clauses terms ↔ factors.1 ∈ clauses ∧ factors.2 ∈ terms := by
  obtain ⟨clause, term⟩ := factors
  simp only [pairings, List.mem_flatMap, List.mem_map, Prod.mk.injEq]
  constructor
  · rintro ⟨_, inside, _, among, rfl, rfl⟩
    exact ⟨inside, among⟩
  · rintro ⟨inside, among⟩
    exact ⟨clause, inside, term, among, rfl, rfl⟩

/-- The products of all clauses with all terms join the two. -/
theorem Products.joins (products : Products (pairings clauses operand.clauses) kept) :
    Joined clauses operand kept := by
  refine ⟨fun product member => ?_, fun clause inside term among => ?_, Or.inr products.fresh⟩
  · obtain ⟨⟨clause, term⟩, inside, found⟩ := products.product product member
    obtain ⟨inside, among⟩ := mem_pairings.mp inside
    exact ⟨clause, inside, term, among, found⟩
  · exact products.covers (clause, term) (mem_pairings.mpr ⟨inside, among⟩)

theorem joined_filterMap (only : operand.clauses = [term]) :
    Joined clauses operand (clauses.filterMap (·.extendAll? term)) := by
  refine ⟨fun product member => ?_, fun clause inside term' among product found => ?_,
    Or.inl (List.length_filterMap_le _ _)⟩
  · obtain ⟨clause, inside, found⟩ := List.mem_filterMap.mp member
    exact ⟨clause, inside, term, by rw [only]; exact List.mem_singleton_self _, found⟩
  · rw [only] at among
    obtain rfl := List.mem_singleton.mp among
    exact Covered.of_mem (List.mem_filterMap.mpr ⟨clause, inside, found⟩)

/-- **One join.** It ends with the clauses joined, or it stops with too many fresh products. -/
theorem joinWithin_run (limit : Nat) (clauses : List Clause) (operand : Expression) :
    (∃ joined, joinWithin limit clauses operand = .ok joined ∧ Joined clauses operand joined) ∨
      ∃ kept, joinWithin limit clauses operand = .error ⟨limit, kept.length⟩ ∧ Fresh [] kept ∧
        limit < kept.length ∧ ∀ product ∈ kept, ∃ clause ∈ clauses, ∃ term ∈ operand.clauses,
          clause.extendAll? term = some product := by
  unfold joinWithin
  split
  · rename_i empty
    exact Or.inl ⟨[], rfl, nofun, fun _ _ term among => by simp [empty] at among, Or.inr Fresh.nil⟩
  · rename_i term only
    exact Or.inl ⟨_, rfl, joined_filterMap only⟩
  · have run := foldlM_addProductWithin limit [] (pairings clauses operand.clauses) Products.nil
    rw [List.nil_append] at run
    rcases run with ⟨kept, run, products⟩ | ⟨some', kept, failed, inside, products, many⟩
    · exact Or.inl ⟨kept, run, products.joins⟩
    · refine Or.inr ⟨kept, failed, products.fresh, many, fun product member => ?_⟩
      obtain ⟨⟨clause, term⟩, among, found⟩ := products.product product member
      obtain ⟨first, second⟩ := mem_pairings.mp (inside among)
      exact ⟨clause, first, term, second, found⟩

theorem joined_of_joinWithin (run : joinWithin limit clauses operand = .ok joined) :
    Joined clauses operand joined := by
  rcases joinWithin_run limit clauses operand with ⟨joined', run', spec⟩ | ⟨_, failed, -⟩
  · rw [run] at run'
    cases run'
    exact spec
  · rw [run] at failed
    cases failed

/-- **A join conjoins values.** -/
theorem Joined.value (assignment : Assignment) (spec : Joined clauses operand joined) :
    anyValue assignment joined = (anyValue assignment clauses && operand.value assignment) := by
  rw [Bool.eq_iff_iff, Bool.and_eq_true, Expression.value, anyValue_eq_true, anyValue_eq_true,
    anyValue_eq_true]
  constructor
  · rintro ⟨product, member, holds⟩
    obtain ⟨clause, inside, term, among, found⟩ := spec.product product member
    have both := Clause.value_extendAll? assignment clause term
    rw [found, Option.any_some, holds, eq_comm, Bool.and_eq_true] at both
    exact ⟨⟨clause, inside, both.1⟩, ⟨term, among, both.2⟩⟩
  · rintro ⟨⟨clause, inside, holds⟩, ⟨term, among, holds'⟩⟩
    have both := Clause.value_extendAll? assignment clause term
    rw [holds, holds', Bool.and_true] at both
    cases found : clause.extendAll? term with
    | none =>
      rw [found] at both
      cases both
    | some product =>
      rw [found] at both
      exact (anyValue_eq_true assignment).mp
        ((spec.covers clause inside term among product found).anyValue both)

/-! ### Joining every operand -/

/-- Joining the first of several operands, and then the others unless no clause is left. -/
theorem expandWithin_cons
    (run : expandWithin limit clauses (operand :: operands) = .ok joined) :
    ∃ middle, joinWithin limit clauses operand = .ok middle ∧
      (middle = [] ∧ joined = [] ∨ expandWithin limit middle operands = .ok joined) := by
  rw [expandWithin] at run
  obtain ⟨middle, first, rest⟩ := bind_eq_ok.mp run
  refine ⟨middle, first, ?_⟩
  split at rest
  · rename_i empty
    cases rest
    exact Or.inl ⟨List.isEmpty_iff.mp empty, rfl⟩
  · exact Or.inr rest

/-- **The clauses have the value of the conjunction.** -/
theorem value_expandWithin (assignment : Assignment)
    (run : expandWithin limit clauses operands = .ok joined) :
    anyValue assignment joined =
      (anyValue assignment clauses && operands.all (·.value assignment)) := by
  induction operands generalizing clauses with
  | nil => cases run; simp
  | cons operand operands ih =>
    obtain ⟨middle, first, rest⟩ := expandWithin_cons run
    rw [List.all_cons, ← Bool.and_assoc, ← (joined_of_joinWithin first).value assignment]
    rcases rest with ⟨rfl, rfl⟩ | rest
    · rfl
    · exact ih rest

/-- **What holds of the clauses and of their products holds of what they are expanded to.** -/
theorem forall_mem_expandWithin {property : Clause → Prop}
    (step : ∀ clause, property clause → ∀ operand ∈ operands, ∀ term ∈ operand.clauses,
      ∀ product, clause.extendAll? term = some product → property product)
    (start : ∀ clause ∈ clauses, property clause)
    (run : expandWithin limit clauses operands = .ok joined) :
    ∀ clause ∈ joined, property clause := by
  induction operands generalizing clauses with
  | nil => cases run; exact start
  | cons operand operands ih =>
    obtain ⟨middle, first, rest⟩ := expandWithin_cons run
    obtain ⟨step, steps⟩ := List.forall_mem_cons.mp
      (fun operand among clause holds => step clause holds operand among)
    have products : ∀ product ∈ middle, property product := by
      intro product member
      obtain ⟨clause, inside, term, among, found⟩ :=
        (joined_of_joinWithin first).product product member
      exact step clause (start clause inside) term among product found
    rcases rest with ⟨rfl, rfl⟩ | rest
    · exact products
    · exact ih (fun clause holds operand among => steps operand among clause holds) products rest

end WhenClause

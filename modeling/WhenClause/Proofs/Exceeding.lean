/-
**Exceeding a limit.**

Every list of clauses that a join holds is counted whenever a clause is added to it, and no count is
taken with more clauses at hand than the limit allows. So the limit is found exceeded at the first
clause beyond it, and otherwise it changes nothing. A list that is never counted is the single clause
that a conjunction begins with; nothing is ever added to it.

* `Counted`: a run keeps within a bound or stops at the first clause beyond the limit; each part of a
  join is `Counted`, from adding one clause to `counted_conjWithin` and `counted_disjWithin`;
* `limited_joins`: conjunctions, disjunctions and negations are `Limited`, they stop so or return
  what they return without a limit.
-/

import WhenClause.Proofs.Negation
import WhenClause.Regex.Engine

namespace WhenClause

open Expression

/-! ### Counted runs -/

/-- A run that returns something good, or finds the limit exceeded at the first clause beyond it. -/
structure Counted {α : Type} (limit : Nat) (good : α → Prop) (run : Except TooManyClauses α) :
    Prop where
  returned : ∀ value, run = .ok value → good value
  stopped : ∀ error, run = .error error → error = ⟨limit, limit + 1⟩

namespace Counted

variable {α β : Type} {good : α → Prop} {good' : β → Prop} {run : Except TooManyClauses α}
  {next : α → Except TooManyClauses β} {limit : Nat}

theorem ok {value : α} (holds : good value) : Counted limit good (.ok value) where
  returned := by
    rintro _ ⟨⟩
    exact holds
  stopped := nofun

theorem error : Counted limit good (.error ⟨limit, limit + 1⟩) where
  returned := nofun
  stopped := by
    rintro _ ⟨⟩
    rfl

theorem bind (counted : Counted limit good run)
    (each : ∀ value, good value → Counted limit good' (next value)) :
    Counted limit good' (run >>= next) := by
  cases outcome : run with
  | ok value => exact each value (counted.returned value outcome)
  | error cause =>
    rw [counted.stopped cause outcome]
    exact error

end Counted

section Engine

variable [PatternEngine]
variable {facts : Facts} {limit : Nat} {kept clauses settled pending : List Clause}
  {operands : List Expression} {expression : Expression} {clause : Clause}

/-- **Clauses are added to a list within the limit until they reach beyond it.** -/
theorem counted_appendWithin (room : clauses.length ≤ limit) (more : List Clause) :
    Counted limit (·.length ≤ limit) (appendWithin limit clauses more) := by
  rw [appendWithin_eq, Nat.max_eq_left room]
  split
  · rename_i enough
    refine .ok ?_
    rcases enough with rfl | enough
    · rwa [List.append_nil]
    · rwa [List.length_append]
  · exact .error

/-! ### Conjunctions -/

theorem counted_addProductWithin (room : kept.length ≤ limit) (factors : Clause × Clause) :
    Counted limit (·.length ≤ limit) (addProductWithin limit kept factors) := by
  unfold addProductWithin
  split
  · exact .ok room
  split
  · exact .ok room
  · rename_i product _ _
    have alone : appendWithin limit kept [product] = checkWithin limit (kept ++ [product]) :=
      bind_pure _
    exact alone ▸ counted_appendWithin room [product]

theorem counted_foldlM_addProductWithin (pairs : List (Clause × Clause))
    (room : kept.length ≤ limit) :
    Counted limit (·.length ≤ limit) (pairs.foldlM (addProductWithin limit) kept) := by
  induction pairs generalizing kept with
  | nil => exact .ok room
  | cons factors pairs ih =>
    rw [List.foldlM_cons]
    exact (counted_addProductWithin room factors).bind fun _ room => ih room

/-- One operand with one clause leaves at most as many clauses, and multiplying counts them. -/
theorem counted_joinWithin (room : clauses.length ≤ max limit 1) (operand : Expression) :
    Counted limit (·.length ≤ max limit 1) (joinWithin limit clauses operand) := by
  unfold joinWithin
  split
  · exact .ok (Nat.zero_le _)
  · exact .ok (Nat.le_trans (List.length_filterMap_le _ _) room)
  · have counted : Counted limit (·.length ≤ limit)
        ((pairings clauses operand.clauses).foldlM (addProductWithin limit) []) :=
      counted_foldlM_addProductWithin _ (Nat.zero_le limit)
    exact ⟨fun joined run => Nat.le_trans (counted.returned joined run) (Nat.le_max_left _ _),
      counted.stopped⟩

theorem counted_expandWithin (room : clauses.length ≤ max limit 1) :
    Counted limit (·.length ≤ max limit 1) (expandWithin limit clauses operands) := by
  induction operands generalizing clauses with
  | nil => exact .ok room
  | cons operand operands ih =>
    rw [expandWithin]
    refine (counted_joinWithin room operand).bind fun joined room => ?_
    split
    · exact .ok (Nat.zero_le _)
    · exact ih room

/-! ### Closing -/

/-- A single clause has no consensus with others, so the closure adds to lists of two or more clauses
only, and these are within the limit. -/
theorem counted_closeWithin (room : settled.length + pending.length ≤ max limit 1) :
    Counted limit (fun _ => True) (closeWithin limit settled pending) := by
  induction settled, pending using closeWithin.induct limit with
  | case1 settled =>
    rw [closeWithin]
    exact .ok trivial
  | case2 settled clause rest added error counted =>
    rw [closeWithin_cons_of_error counted]
    have within : (settled ++ clause :: rest).length ≤ limit := by
      simp only [List.length_append, List.length_cons] at room ⊢
      cases settled with
      | nil => cases counted
      | cons _ _ =>
        simp only [List.length_cons] at room ⊢
        omega
    rw [(counted_appendWithin within added).stopped error counted]
    exact .error
  | case3 settled clause rest added held counted ih =>
    rw [closeWithin_cons_of_ok counted]
    refine ih ?_
    rcases (appendWithin_eq_ok counted).2 with nothing | enough
    · simp only [nothing, List.length_append, List.length_cons, List.length_nil] at room ⊢
      omega
    · simp only [List.length_append, List.length_cons, List.length_nil] at enough ⊢
      omega

theorem counted_ofClausesWithin (room : clauses.length ≤ max limit 1) :
    Counted limit (fun _ => True) (ofClausesWithin limit clauses) :=
  (counted_closeWithin (by simpa using room)).bind fun _ _ =>
    .ok trivial

/-- **A conjunction stops at the first clause beyond the limit.** -/
theorem counted_conjWithin (limit : Nat) (operands : List Expression) :
    Counted limit (fun _ => True) (conjWithin limit operands) :=
  (counted_expandWithin (Nat.le_max_right limit 1)).bind fun _ room => counted_ofClausesWithin room

/-! ### Disjunctions -/

theorem counted_gatherWithin (room : clauses.length ≤ limit) :
    Counted limit (fun outcome => ∀ gathered, outcome = some gathered → gathered.length ≤ limit)
      (gatherWithin limit clauses operands) := by
  induction operands generalizing clauses with
  | nil =>
    refine .ok ?_
    rintro _ ⟨⟩
    exact room
  | cons operand operands ih =>
    rw [gatherWithin]
    split
    · refine .ok fun gathered same => ?_
      cases same
    split
    · exact ih room
    · exact (counted_appendWithin room operand.clauses).bind fun _ room => ih room

/-- **A disjunction stops at the first clause beyond the limit.** -/
theorem counted_disjWithin (limit : Nat) (operands : List Expression) :
    Counted limit (fun _ => True) (disjWithin limit operands) := by
  refine (counted_gatherWithin (Nat.zero_le limit)).bind fun outcome room => ?_
  cases outcome with
  | none => exact .ok trivial
  | some gathered =>
    exact counted_ofClausesWithin (Nat.le_trans (room gathered rfl) (Nat.le_max_left _ _))

/-! ### Negations -/

/-- **A negation stops at the first clause beyond the limit.** -/
theorem counted_negateWithin (facts : Facts) (limit : Nat) (expression : Expression) :
    Counted limit (fun _ => True) (expression.negateWithin facts limit) := by
  unfold Expression.negateWithin
  split
  · exact .ok trivial
  · unfold negateClauseWithin
    split
    · exact .ok trivial
    · exact counted_disjWithin limit _
  · exact counted_conjWithin limit _

/-! ### What limits change -/

/-- What a limit changes about a run that has a result without it: it may stop the run, at the first
clause beyond the limit, but the run returns no other result, and a greater limit does not stop it
where a smaller one does not. -/
structure Limited (run : Nat → Except TooManyClauses Expression) (result : Expression) : Prop where
  ends : ∃ limit, run limit = .ok result
  outcome : ∀ limit, run limit = .ok result ∨ run limit = .error ⟨limit, limit + 1⟩
  mono : ∀ limit returned, run limit = .ok returned →
    ∀ limit', limit ≤ limit' → run limit' = .ok returned

theorem Limited.of_counted {run : Nat → Except TooManyClauses Expression} {result : Expression}
    (ends : ∃ limit, run limit = .ok result)
    (mono : ∀ {limit limit' returned}, limit ≤ limit' → run limit = .ok returned →
      run limit' = .ok returned)
    (counted : ∀ limit, Counted limit (fun _ => True) (run limit)) : Limited run result where
  ends := ends
  outcome limit := by
    cases outcome : run limit with
    | ok returned =>
      -- both limits give way to the greater one, and there the results meet
      obtain ⟨limit', returns⟩ := ends
      have first := mono (Nat.le_max_left limit limit') outcome
      rw [mono (Nat.le_max_right limit limit') returns] at first
      exact Or.inl first.symm
    | error error =>
      rw [(counted limit).stopped error outcome]
      exact Or.inr rfl
  mono _ _ run _ le := mono le run

/-- **Limits stop joins and negations, and change nothing else.** Without NaN a conjunction, a
disjunction or a negation within a limit returns what it returns without one, clause by clause and
literal by literal, or it stops at the first clause beyond the limit. What it returns within a limit
it returns within every greater one. -/
theorem limited_joins (nanFree : ∀ operand ∈ operands, operand.NaNFree)
    (nanFree' : expression.NaNFree) (facts : Facts) :
    Limited (conjWithin · operands) (conj operands) ∧
      Limited (disjWithin · operands) (disj operands) ∧
      Limited (expression.negateWithin facts ·) (expression.negate facts) :=
  ⟨.of_counted (conjReturns_conj nanFree) conjWithin_mono fun limit =>
      counted_conjWithin limit operands,
    .of_counted (disjReturns_disj nanFree) disjWithin_mono fun limit =>
      counted_disjWithin limit operands,
    .of_counted (negateWithin_ends nanFree') negateWithin_mono fun limit =>
      counted_negateWithin facts limit expression⟩

end Engine

/-- The clauses of `a || b` are two: within a limit of one the second clause is one too many. -/
theorem limited_two_keys :
    Limited (conjWithin · [has none "a", has none "b"]) (conj [has none "a", has none "b"]) ∧
      Limited (disjWithin · [has none "a", has none "b"]) (disj [has none "a", has none "b"]) ∧
      Limited ((has none "a").negateWithin none ·) ((has none "a").negate none) ∧
      disjWithin 1 [has none "a", has none "b"] = .error ⟨1, 2⟩ := by
  obtain ⟨conj, disj, negation⟩ := @limited_joins _ [has none "a", has none "b"] (has none "a")
    (by decide) (by decide) none
  exact ⟨conj, disj, negation, rfl⟩

end WhenClause

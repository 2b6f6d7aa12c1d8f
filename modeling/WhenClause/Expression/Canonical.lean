/-
**The canonical form.**

`conjWithin` and `disjWithin` join expressions and bring the result into canonical form: the list of
all minimal clauses that are enough for the result to hold. Both stop with an error when they would
have to keep more clauses than a limit allows.

* `expandWithin` multiplies out a conjunction. A product with a pair of complements is dropped, and
  so is one that includes a product kept before.
* `closeWithin` adds the consensus of any two clauses, unless it includes a clause that is there.
* `minimal` then drops each clause that includes another one, and all but the first of equal ones.

`conj` and `disj` are the same without a limit of the caller's. Their limit, `ceiling`, has room for
the clauses of the operands and for twice the number of different clauses that their literals form:
once for the products that are kept, and once for the clauses that the closure adds to them.
-/

import WhenClause.Expression.Basic

namespace WhenClause

variable [PatternEngine]

/-- More clauses were needed than the limit allows: how many were held when this was found. -/
structure TooManyClauses where
  limit : Nat
  reached : Nat
  deriving DecidableEq, Repr

/-- A list of clauses, if it keeps within a limit. -/
def checkWithin (limit : Nat) (clauses : List Clause) : Except TooManyClauses (List Clause) :=
  if limit < clauses.length then .error ⟨limit, clauses.length⟩ else .ok clauses

/-- The clauses with several more behind them, counted anew after each one. -/
def appendWithin (limit : Nat) (clauses more : List Clause) : Except TooManyClauses (List Clause) :=
  more.foldlM (fun held clause => checkWithin limit (held ++ [clause])) clauses

/-- **Appending stops at the first clause beyond the limit.** -/
theorem appendWithin_eq (limit : Nat) (clauses more : List Clause) :
    appendWithin limit clauses more =
      if more = [] ∨ clauses.length + more.length ≤ limit then .ok (clauses ++ more)
      else .error ⟨limit, max limit clauses.length + 1⟩ := by
  induction more generalizing clauses with
  | nil => simp [appendWithin, pure, Except.pure]
  | cons clause more ih =>
    rw [appendWithin, List.foldlM_cons, checkWithin, List.length_append, List.length_singleton]
    by_cases beyond : limit < clauses.length + 1
    · have error : ¬(clause :: more = [] ∨ clauses.length + (clause :: more).length ≤ limit) := by
        simp only [List.length_cons, reduceCtorEq, false_or]
        omega
      rw [if_pos beyond, if_neg error, Nat.max_eq_right (by omega)]
      rfl
    · have step := ih (clauses ++ [clause])
      rw [appendWithin, List.append_assoc, List.singleton_append, List.length_append,
        List.length_singleton, Nat.max_eq_left (by omega)] at step
      rw [if_neg beyond, Nat.max_eq_left (by omega)]
      refine step.trans (ite_congr (propext ?_) (fun _ => rfl) fun _ => rfl)
      cases more with
      | nil => simpa using Nat.not_lt.mp beyond
      | cons _ _ =>
        simp only [List.length_cons, reduceCtorEq, false_or]
        omega

theorem appendWithin_eq_ok {limit : Nat} {clauses more held : List Clause}
    (run : appendWithin limit clauses more = .ok held) :
    held = clauses ++ more ∧ (more = [] ∨ clauses.length + more.length ≤ limit) := by
  rw [appendWithin_eq] at run
  split at run
  · rename_i room
    cases run
    exact ⟨rfl, room⟩
  · cases run

/-! ### Multiplying out -/

/-- The clauses with the product of one clause and one term added, where it adds something. -/
def addProductWithin (limit : Nat) (kept : List Clause) (factors : Clause × Clause) :
    Except TooManyClauses (List Clause) :=
  match factors.1.extendAll? factors.2 with
  | none => .ok kept
  | some product =>
    if kept.any (Clause.isSubset · product) then .ok kept
    else checkWithin limit (kept ++ [product])

/-- Each clause joined with each term. -/
def productsWithin (limit : Nat) (clauses terms : List Clause) :
    Except TooManyClauses (List Clause) :=
  (clauses.flatMap fun clause => terms.map (clause, ·)).foldlM (addProductWithin limit) []

/-- The clauses joined with one operand. Where it has one clause nothing is multiplied. -/
def joinWithin (limit : Nat) (clauses : List Clause) (operand : Expression) :
    Except TooManyClauses (List Clause) :=
  match operand.clauses with
  | [] => .ok []
  | [term] => .ok (clauses.filterMap (·.extendAll? term))
  | terms => productsWithin limit clauses terms

/-- The clauses joined with every operand, until none is left. -/
def expandWithin (limit : Nat) (clauses : List Clause) :
    List Expression → Except TooManyClauses (List Clause)
  | [] => .ok clauses
  | operand :: operands => do
    let joined ← joinWithin limit clauses operand
    if joined.isEmpty then return [] else expandWithin limit joined operands

/-! ### Gathering -/

/-- The clauses of all operands behind given ones; none if an operand always holds. -/
def gatherWithin (limit : Nat) (clauses : List Clause) :
    List Expression → Except TooManyClauses (Option (List Clause))
  | [] => .ok (some clauses)
  | operand :: operands => do
    if operand.isAlways then return none
    else if operand.isNever then gatherWithin limit clauses operands
    else
      let gathered ← appendWithin limit clauses operand.clauses
      gatherWithin limit gathered operands

/-! ### Closing under consensus -/

/-- The consensus of each settled clause with one more clause, where it includes neither a known
clause nor one added before it. -/
def newConsensus (settled known : List Clause) (clause : Clause) : List Clause :=
  settled.foldl (fun added earlier =>
    match earlier.consensus clause with
    | none => added
    | some resolvent =>
      if (known ++ added).any (Clause.isSubset · resolvent) then added
      else added ++ [resolvent]) []

/-- The clauses with every consensus they need. Any two settled clauses have been joined; a pending
clause is joined with the settled ones, what that adds becomes pending, and the clause is
settled. -/
def closeWithin (limit : Nat) (settled pending : List Clause) :
    Except TooManyClauses (List Clause) :=
  match pending with
  | [] => .ok settled
  | clause :: rest =>
    let added := newConsensus settled (settled ++ clause :: rest) clause
    match _counted : appendWithin limit (settled ++ clause :: rest) added with
    | .error error => .error error
    | .ok _ => closeWithin limit (settled ++ [clause]) (rest ++ added)
termination_by (limit - (settled.length + pending.length), pending.length)
decreasing_by
  rcases appendWithin_eq_ok _counted with ⟨-, nothing | room⟩
  · have nothing : newConsensus settled (settled ++ clause :: rest) clause = [] := nothing
    simp only [nothing, List.length_append, List.length_cons, List.length_nil, Prod.lex_def]
    omega
  · have room : (settled ++ clause :: rest).length +
        (newConsensus settled (settled ++ clause :: rest) clause).length ≤ limit := room
    simp only [List.length_append, List.length_cons, List.length_nil, Prod.lex_def] at room ⊢
    omega

section Closing

variable {limit : Nat} {clause : Clause} {settled rest held : List Clause} {error : TooManyClauses}

/-- Where the limit has room for what it adds, a clause is settled. -/
theorem closeWithin_cons_of_ok
    (counted : appendWithin limit (settled ++ clause :: rest)
      (newConsensus settled (settled ++ clause :: rest) clause) = .ok held) :
    closeWithin limit settled (clause :: rest) = closeWithin limit (settled ++ [clause])
      (rest ++ newConsensus settled (settled ++ clause :: rest) clause) := by
  rw [closeWithin]
  split
  · rename_i other
    rw [counted] at other
    cases other
  · rfl

theorem closeWithin_cons_of_error
    (counted : appendWithin limit (settled ++ clause :: rest)
      (newConsensus settled (settled ++ clause :: rest) clause) = .error error) :
    closeWithin limit settled (clause :: rest) = .error error := by
  rw [closeWithin]
  split
  · rename_i other
    rw [counted] at other
    cases other
    rfl
  · rename_i other
    rw [counted] at other
    cases other

end Closing

/-! ### Absorption -/

/-- The clauses that are minimal among themselves and the clauses before them, the last of these
first. Of equal clauses the first one is. -/
def minimalBehind (before : List Clause) : List Clause → List Clause
  | [] => []
  | clause :: behind =>
    let rest := minimalBehind (clause :: before) behind
    if before.any (Clause.isSubset · clause) ||
        behind.any (fun other => Clause.isSubset other clause && other.length < clause.length) then
      rest
    else clause :: rest

/-- The clauses that include no other clause. -/
def minimal (clauses : List Clause) : List Clause := minimalBehind [] clauses

/-! ### Conjunction and disjunction -/

namespace Expression

/-- The canonical form of a disjunction of clauses. -/
def ofClausesWithin (limit : Nat) (clauses : List Clause) : Except TooManyClauses Expression := do
  let closed ← closeWithin limit [] clauses
  return ⟨minimal closed⟩

/-- The conjunction of expressions, within a limit on the clauses held at a time. -/
def conjWithin (limit : Nat) (operands : List Expression) : Except TooManyClauses Expression := do
  let clauses ← expandWithin limit [[]] operands
  ofClausesWithin limit clauses

/-- The disjunction of expressions, within a limit on the clauses held at a time. -/
def disjWithin (limit : Nat) (operands : List Expression) : Except TooManyClauses Expression := do
  match ← gatherWithin limit [] operands with
  | none => return always
  | some clauses => ofClausesWithin limit clauses

/-- A limit that joining the operands cannot exceed, as long as equal literals are recognised. -/
def ceiling (operands : List Expression) : Nat :=
  let clauses := operands.flatMap (·.clauses)
  clauses.length + 2 * Nat.pow 2 clauses.flatten.length

/-- The result of joining within the ceiling. Only NaN, which is not even equal to itself, lets the
closure run beyond it; such a join settles on no canonical form, and `never` stands for it. -/
def settle (result : Except TooManyClauses Expression) : Expression :=
  match result with
  | .ok expression => expression
  | .error _ => never

/-- The conjunction of expressions. -/
def conj (operands : List Expression) : Expression :=
  settle (conjWithin (ceiling operands) operands)

/-- The disjunction of expressions. -/
def disj (operands : List Expression) : Expression :=
  settle (disjWithin (ceiling operands) operands)

end Expression

end WhenClause

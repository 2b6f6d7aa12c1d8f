/-
**How long joins run.**

Without a limit a join runs its loops to their ends, if they have one. The worklists of operands
always end. The closure takes a pending clause in each round, but a round may add clauses, so it
`Closes` only if at some time nothing is pending.

* `closeWithin_iff_rounds`: that is so exactly if some limit is great enough, so what joins return
  is what their loops end with (`conjReturns_iff`, `disjReturns_iff`);
* `disjReturns_negatedClause`: negating one clause always ends;
* `joins_end`: without NaN, joins end and so do the negations of what they return;
* `closure_without_end`: with NaN, three operands keep the closure running: as NaN is not equal to
  itself, no clause that names it covers the next one.
-/

import Mathlib.Logic.Function.Iterate
import WhenClause.Proofs.Built
import WhenClause.Proofs.Complete
import WhenClause.Regex.Engine

namespace WhenClause

open Clause (isSubset)
open Expression

section Joins

variable [PatternEngine]
variable {facts : Facts} {operands : List Expression} {result : Expression} {limit : Nat}
  {clause : Clause} {clauses settled pending closed known : List Clause} {rounds : Nat}

/-! ### Rounds -/

/-- One round of the closure without a limit: a pending clause is settled. -/
def closeRound : List Clause × List Clause → List Clause × List Clause
  | (settled, []) => (settled, [])
  | (settled, clause :: rest) =>
    (settled ++ [clause], rest ++ newConsensus settled (settled ++ clause :: rest) clause)

/-- The closure of the clauses comes to an end: after so many rounds nothing is pending. -/
def Closes (clauses closed : List Clause) : Prop :=
  ∃ rounds, closeRound^[rounds] ([], clauses) = (closed, [])

/-- What a closure returns within a limit it ends with. -/
theorem rounds_of_closeWithin (run : closeWithin limit settled pending = .ok closed) :
    ∃ rounds, closeRound^[rounds] (settled, pending) = (closed, []) := by
  induction settled, pending using closeWithin.induct limit with
  | case1 settled =>
    rw [closeWithin] at run
    cases run
    exact ⟨0, rfl⟩
  | case2 settled clause rest added error counted =>
    rw [closeWithin_cons_of_error counted] at run
    cases run
  | case3 settled clause rest added held counted ih =>
    rw [closeWithin_cons_of_ok counted] at run
    obtain ⟨rounds, same⟩ := ih run
    exact ⟨rounds + 1, same⟩

/-- No round loses a clause. -/
theorem length_le_of_rounds (same : closeRound^[rounds] (settled, pending) = (closed, [])) :
    settled.length + pending.length ≤ closed.length := by
  induction rounds generalizing settled pending with
  | zero =>
    cases same
    exact Nat.le_refl _
  | succ rounds ih =>
    rw [Function.iterate_succ_apply] at same
    cases pending with
    | nil => exact ih same
    | cons clause rest =>
      have longer := ih same
      simp only [List.length_append, List.length_cons, List.length_nil] at longer ⊢
      omega

/-- A closure that comes to an end does so within every limit that has room for what it ends with. -/
theorem closeWithin_of_rounds (same : closeRound^[rounds] (settled, pending) = (closed, []))
    (room : closed.length ≤ limit) : closeWithin limit settled pending = .ok closed := by
  induction rounds generalizing settled pending with
  | zero =>
    cases same
    rw [closeWithin]
  | succ rounds ih =>
    rw [Function.iterate_succ_apply] at same
    cases pending with
    | nil => exact ih same
    | cons clause rest =>
      have longer := length_le_of_rounds same
      have counted : appendWithin limit (settled ++ clause :: rest)
          (newConsensus settled (settled ++ clause :: rest) clause) =
            .ok (settled ++ clause :: rest ++
              newConsensus settled (settled ++ clause :: rest) clause) := by
        rw [appendWithin_eq, if_pos (Or.inr _)]
        simp only [List.length_append, List.length_cons, List.length_nil] at longer ⊢
        omega
      rw [closeWithin_cons_of_ok counted]
      exact ih same

/-- **A closure ends exactly if some limit is great enough for it.** -/
theorem closeWithin_iff_rounds :
    (∃ limit, closeWithin limit [] clauses = .ok closed) ↔ Closes clauses closed :=
  ⟨fun ⟨_, run⟩ => rounds_of_closeWithin run,
    fun ⟨_, same⟩ => ⟨closed.length, closeWithin_of_rounds same (Nat.le_refl _)⟩⟩

/-! ### Worklists -/

/-- What the operands of a conjunction multiply out to. -/
def Expands (operands : List Expression) (clauses : List Clause) : Prop :=
  ∃ limit, expandWithin limit [[]] operands = .ok clauses

/-- What the operands of a disjunction gather: all their clauses, or nothing if one always holds. -/
def Gathers (operands : List Expression) (outcome : Option (List Clause)) : Prop :=
  ∃ limit, gatherWithin limit [] operands = .ok outcome

/-- Each pair of factors adds one product at most. -/
theorem foldlM_addProductWithin_ends (pairs : List (Clause × Clause))
    (room : clauses.length + pairs.length ≤ limit) :
    ∃ kept, pairs.foldlM (addProductWithin limit) clauses = .ok kept := by
  induction pairs generalizing clauses with
  | nil => exact ⟨clauses, rfl⟩
  | cons factors pairs ih =>
    rw [List.length_cons] at room
    have step : ∃ kept, addProductWithin limit clauses factors = .ok kept ∧
        kept.length ≤ clauses.length + 1 := by
      unfold addProductWithin
      split
      · exact ⟨clauses, rfl, Nat.le_succ _⟩
      split
      · exact ⟨clauses, rfl, Nat.le_succ _⟩
      · rename_i product _ _
        refine ⟨clauses ++ [product], if_neg ?_, ?_⟩
        · simp only [List.length_append, List.length_cons, List.length_nil]
          omega
        · simp only [List.length_append, List.length_cons, List.length_nil, Nat.le_refl]
    obtain ⟨kept, run, short⟩ := step
    obtain ⟨kept', run'⟩ := @ih kept (by omega)
    exact ⟨kept', by rw [List.foldlM_cons, run]; exact run'⟩

theorem joinWithin_ends (clauses : List Clause) (operand : Expression) :
    ∃ limit joined, joinWithin limit clauses operand = .ok joined := by
  obtain ⟨kept, run⟩ := @foldlM_addProductWithin_ends _ _ []
    (pairings clauses operand.clauses) (by rw [List.length_nil, Nat.zero_add])
  refine ⟨(pairings clauses operand.clauses).length, ?_⟩
  unfold joinWithin
  split
  · exact ⟨_, rfl⟩
  · exact ⟨_, rfl⟩
  · exact ⟨kept, run⟩

/-- **The operands of a conjunction multiply out, whatever their literals.** -/
theorem exists_expands (operands : List Expression) : ∃ clauses, Expands operands clauses := by
  have ends : ∀ clauses, ∃ limit expanded, expandWithin limit clauses operands = .ok expanded := by
    induction operands with
    | nil => exact fun clauses => ⟨0, clauses, rfl⟩
    | cons operand operands ih =>
      intro clauses
      obtain ⟨limit, joined, joins⟩ := joinWithin_ends clauses operand
      obtain ⟨limit', expanded, expands⟩ := ih joined
      have joins' := joinWithin_mono (Nat.le_max_left limit limit') joins
      refine ⟨max limit limit', if joined.isEmpty then [] else expanded, ?_⟩
      rw [expandWithin]
      refine bind_eq_ok.mpr ⟨joined, joins', ?_⟩
      split
      · rfl
      · exact expandWithin_mono (Nat.le_max_right limit limit') expands
  obtain ⟨limit, clauses, run⟩ := ends [[]]
  exact ⟨clauses, limit, run⟩

/-- **The clauses of the operands of a disjunction are gathered, whatever their literals.** -/
theorem exists_gathers (operands : List Expression) : ∃ outcome, Gathers operands outcome := by
  have room : ([] : List Clause).length + (operands.flatMap (·.clauses)).length ≤
      (operands.flatMap (·.clauses)).length := by rw [List.length_nil, Nat.zero_add]
  obtain ⟨outcome, run⟩ := gatherWithin_ends room
  exact ⟨outcome, _, run⟩

/-- Operands gather in one way. -/
theorem Gathers.unique {outcome outcome' : Option (List Clause)}
    (gathers : Gathers operands outcome) (gathers' : Gathers operands outcome') :
    outcome = outcome' := by
  obtain ⟨limit, run⟩ := gathers
  obtain ⟨limit', run'⟩ := gathers'
  have both := gatherWithin_mono (Nat.le_max_left limit limit') run
  rw [gatherWithin_mono (Nat.le_max_right limit limit') run'] at both
  exact (Except.ok.inj both).symm

/-! ### Joins -/

/-- **What a conjunction returns its loops end with.** -/
theorem conjReturns_iff :
    ConjReturns operands result ↔
      ∃ clauses closed, Expands operands clauses ∧ Closes clauses closed ∧
        result = ⟨minimal closed⟩ := by
  constructor
  · rintro ⟨limit, run⟩
    obtain ⟨clauses, expands, joins⟩ := bind_eq_ok.mp run
    obtain ⟨closed, closes, same⟩ := bind_eq_ok.mp joins
    cases same
    exact ⟨clauses, closed, ⟨limit, expands⟩, closeWithin_iff_rounds.mp ⟨limit, closes⟩, rfl⟩
  · rintro ⟨clauses, closed, ⟨limit, expands⟩, closes, rfl⟩
    obtain ⟨limit', closes⟩ := closeWithin_iff_rounds.mpr closes
    exact ⟨max limit limit', bind_eq_ok.mpr ⟨clauses,
      expandWithin_mono (Nat.le_max_left limit limit') expands, bind_eq_ok.mpr ⟨closed,
        closeWithin_mono (Nat.le_max_right limit limit') closes, rfl⟩⟩⟩

/-- **What a disjunction returns its loops end with.** -/
theorem disjReturns_iff :
    DisjReturns operands result ↔
      (Gathers operands none ∧ result = always) ∨
        ∃ clauses closed, Gathers operands (some clauses) ∧ Closes clauses closed ∧
          result = ⟨minimal closed⟩ := by
  constructor
  · rintro ⟨limit, run⟩
    obtain ⟨outcome, gathers, joins⟩ := bind_eq_ok.mp run
    cases outcome with
    | none =>
      cases joins
      exact Or.inl ⟨⟨limit, gathers⟩, rfl⟩
    | some clauses =>
      obtain ⟨closed, closes, same⟩ := bind_eq_ok.mp joins
      cases same
      exact Or.inr ⟨clauses, closed, ⟨limit, gathers⟩, closeWithin_iff_rounds.mp ⟨limit, closes⟩,
        rfl⟩
  · rintro (⟨⟨limit, gathers⟩, rfl⟩ | ⟨clauses, closed, ⟨limit, gathers⟩, closes, rfl⟩)
    · exact ⟨limit, bind_eq_ok.mpr ⟨none, gathers, rfl⟩⟩
    · obtain ⟨limit', closes⟩ := closeWithin_iff_rounds.mpr closes
      exact ⟨max limit limit', bind_eq_ok.mpr ⟨some clauses,
        gatherWithin_mono (Nat.le_max_left limit limit') gathers, bind_eq_ok.mpr ⟨closed,
          closeWithin_mono (Nat.le_max_right limit limit') closes, rfl⟩⟩⟩

/-! ### Clauses of one literal -/

/-- Clauses of one literal have no other consensus than the empty clause. -/
theorem consensus_eq_nil {left right resolvent : Clause} (short : left.length ≤ 1)
    (short' : right.length ≤ 1) (found : left.consensus right = some resolvent) :
    resolvent = [] := by
  obtain ⟨⟨pivot, partner, opposed⟩, rfl⟩ := Clause.consensus_eq_some found
  obtain ⟨literal, rfl⟩ := List.length_eq_one_iff.mp
    (Nat.le_antisymm short (List.length_pos_of_mem opposed.pivot_mem))
  obtain ⟨literal', rfl⟩ := List.length_eq_one_iff.mp
    (Nat.le_antisymm short' (List.length_pos_of_mem opposed.partner_mem))
  obtain rfl := List.mem_singleton.mp opposed.pivot_mem
  obtain rfl := List.mem_singleton.mp opposed.partner_mem
  simp [Clause.unopposed, opposed.complement, opposed.symm.complement]

/-- So a round adds the empty clause, unless it is known, or nothing. -/
theorem newConsensus_of_short (short : ∀ earlier ∈ settled, earlier.length ≤ 1)
    (short' : clause.length ≤ 1) :
    newConsensus settled known clause = [] ∨
      newConsensus settled known clause = [[]] ∧ [] ∉ known := by
  have round := round_newConsensus settled known clause
  generalize newConsensus settled known clause = added at round ⊢
  have empty : ∀ resolvent ∈ added, resolvent = [] := by
    intro resolvent member
    obtain ⟨earlier, among, found⟩ := round.consensus resolvent member
    exact consensus_eq_nil (short earlier among) short' found
  match added with
  | [] => exact Or.inl rfl
  | [resolvent] =>
    obtain rfl := empty resolvent List.mem_cons_self
    exact Or.inr ⟨rfl, fun inside => nomatch round.fresh.known [] List.mem_cons_self [] inside⟩
  | resolvent :: resolvent' :: _ =>
    obtain rfl := empty resolvent List.mem_cons_self
    have apart := (List.pairwise_cons.mp round.fresh.added).1 resolvent' List.mem_cons_self
    cases apart

/-- The limit has room for the clauses, and for the empty clause if it is not among them. -/
def RoomForNil (limit : Nat) (clauses : List Clause) : Prop :=
  clauses.length + 1 ≤ limit ∨ [] ∈ clauses ∧ clauses.length ≤ limit

theorem RoomForNil.length_le (room : RoomForNil limit clauses) : clauses.length ≤ limit :=
  room.elim (Nat.le_trans (Nat.le_succ _)) And.right

/-- A round of clauses of one literal keeps them such, and leaves the limit room. -/
theorem RoomForNil.round (short : ∀ earlier ∈ settled, earlier.length ≤ 1)
    (short' : clause.length ≤ 1) (room : RoomForNil limit known) :
    RoomForNil limit (known ++ newConsensus settled known clause) ∧
      ∀ resolvent ∈ newConsensus settled known clause, resolvent.length ≤ 1 := by
  rcases @newConsensus_of_short _ _ _ known short short' with same | ⟨same, absent⟩
  · rw [same, List.append_nil]
    exact ⟨room, nofun⟩
  · rw [same]
    have enough := room.resolve_right fun both => absent both.1
    refine ⟨Or.inr ⟨by simp, ?_⟩, List.forall_mem_singleton.mpr (Nat.zero_le 1)⟩
    rw [List.length_append]
    exact enough

/-- The closure of clauses of one literal ends, NaN or not. -/
theorem closeWithin_ends_of_short (short : ∀ clause ∈ settled ++ pending, clause.length ≤ 1)
    (room : RoomForNil limit (settled ++ pending)) :
    ∃ closed, closeWithin limit settled pending = .ok closed := by
  induction settled, pending using closeWithin.induct limit with
  | case1 settled => exact ⟨settled, by rw [closeWithin]⟩
  | case2 settled clause rest added error counted =>
    obtain ⟨first, second⟩ := List.forall_mem_append.mp short
    have enough := (room.round first (second clause List.mem_cons_self)).1.length_le
    rw [List.length_append] at enough
    rw [appendWithin_eq, if_pos (Or.inr enough)] at counted
    cases counted
  | case3 settled clause rest added held counted ih =>
    obtain ⟨first, second⟩ := List.forall_mem_append.mp short
    obtain ⟨room', short'⟩ := room.round first (second clause List.mem_cons_self)
    have order : settled ++ [clause] ++ (rest ++ added) = settled ++ clause :: rest ++ added := by
      simp
    rw [closeWithin_cons_of_ok counted]
    refine ih ?_ ?_ <;> rw [order]
    · exact List.forall_mem_append.mpr ⟨short, short'⟩
    · exact room'

/-- The negation of a literal has no clause of more literals than one. -/
theorem short_negateLiteral (facts : Facts) (literal : Literal) :
    ∀ clause ∈ (negateLiteral facts literal).clauses, clause.length ≤ 1 := by
  have constant : ∀ value, ∀ clause ∈ (ofBool value).clauses, clause.length ≤ 1 := by
    intro value
    cases value <;> simp [ofBool, never, always]
  have alone : ∀ literal, ∀ clause ∈ (single literal).clauses, clause.length ≤ 1 :=
    fun literal => List.forall_mem_singleton.mpr (Nat.le_refl _)
  rcases negateLiteral_cases facts literal with same | same
  · rw [same]
    rcases ofLiteral_cases facts literal.opposite with ⟨value, same⟩ | ⟨literal', same, -⟩
    · rw [same]
      exact constant value
    · rw [same]
      exact alone literal'
  · rw [same]
    exact alone _

/-- **Negating a clause always ends.** -/
theorem disjReturns_negatedClause (facts : Facts) (clause : Clause) :
    DisjReturns (clause.map (negateLiteral facts)) (disj (clause.map (negateLiteral facts))) := by
  have high := ceiling_eq (clause.map (negateLiteral facts))
  have short : ∀ negated ∈ (clause.map (negateLiteral facts)).flatMap (·.clauses),
      negated.length ≤ 1 := by
    intro negated member
    obtain ⟨operand, among, inside⟩ := List.mem_flatMap.mp member
    obtain ⟨literal, -, rfl⟩ := List.mem_map.mp among
    exact short_negateLiteral facts literal negated inside
  have positive : 0 < 2 ^ (literalsOf (clause.map (negateLiteral facts))).length :=
    Nat.two_pow_pos _
  have room : RoomForNil (ceiling (clause.map (negateLiteral facts)))
      ([] ++ (clause.map (negateLiteral facts)).flatMap (·.clauses)) := by
    refine Or.inl ?_
    rw [List.nil_append, high]
    omega
  obtain ⟨closed, closes⟩ := closeWithin_ends_of_short short room
  exact ⟨_, disjWithin_eq_disj_of_ends ⟨_, bind_eq_ok.mpr ⟨closed, closes, rfl⟩⟩ (Nat.le_refl _)⟩

/-! ### Joins that end -/

/-- **Joins end, as long as literals equal themselves.** The worklists of both joins always end.
Without NaN the closures behind them end as well, with what `conj` and `disj` return, and so do all
joins that the negations of these take. -/
theorem joins_end (operands : List Expression) :
    (∃ clauses, Expands operands clauses) ∧ (∃ outcome, Gathers operands outcome) ∧
      ((∀ operand ∈ operands, operand.NaNFree) →
        (∃ clauses closed, Expands operands clauses ∧ Closes clauses closed ∧
          conj operands = ⟨minimal closed⟩) ∧
        ((Gathers operands none ∧ disj operands = always) ∨
          ∃ clauses closed, Gathers operands (some clauses) ∧ Closes clauses closed ∧
            disj operands = ⟨minimal closed⟩) ∧
        (conj operands).NegationEnds ∧ (disj operands).NegationEnds) :=
  ⟨exists_expands operands, exists_gathers operands, fun nanFree =>
    ⟨conjReturns_iff.mp (conjReturns_conj nanFree), disjReturns_iff.mp (disjReturns_disj nanFree),
      negationEnds (kept_nanFree.conj nanFree), negationEnds (kept_nanFree.disj nanFree)⟩⟩

end Joins

/-- The joins of `!a` and `n == Infinity` end. -/
theorem joins_end_infinity :
    (∃ clauses closed, Expands [lacks none "a",
        equals none "n" (.number (Double.ofBits 0x7ff0000000000000))] clauses ∧
      Closes clauses closed ∧ conj [lacks none "a",
        equals none "n" (.number (Double.ofBits 0x7ff0000000000000))] = ⟨minimal closed⟩) ∧
      (disj [lacks none "a",
        equals none "n" (.number (Double.ofBits 0x7ff0000000000000))]).NegationEnds := by
  obtain ⟨-, -, ends⟩ := joins_end [lacks none "a",
    equals none "n" (.number (Double.ofBits 0x7ff0000000000000))]
  obtain ⟨conjunction, -, -, negation⟩ := ends (by decide)
  exact ⟨conjunction, negation⟩

/-! ### A closure without end -/

section Endless

variable [PatternEngine] {clause : Clause} {settled known : List Clause}

/-- A clause adds nothing in a round if it has no consensus with the clause that is settled. -/
theorem foldl_addConsensus_of_none {added : List Clause}
    (none' : ∀ earlier ∈ settled, earlier.consensus clause = none) :
    settled.foldl (addConsensus known clause) added = added := by
  induction settled with
  | nil => rfl
  | cons earlier settled ih =>
    obtain ⟨first, rest⟩ := List.forall_mem_cons.mp none'
    rw [List.foldl_cons, addConsensus, first]
    exact ih rest

/-- The clauses `!a && b` and `!b && a`. -/
def exchange : List Clause :=
  [[.test (.has "a") false, .test (.has "b") true], [.test (.has "b") false, .test (.has "a") true]]

/-- The clauses `a && n == NaN` and `b && n == NaN`. Each is the consensus of the other one with a
clause of `exchange`. -/
def nanClause (ofA : Bool) : Clause :=
  [.test (.has (if ofA then "a" else "b")) true, .test (.equals "n" (.number .nan)) true]

/-- Neither covers a clause that names NaN: not even one that is written alike. -/
theorem not_isSubset_nanClause (ofA : Bool)
    (shape : ∀ kept ∈ known, kept ∈ exchange ∨ ∃ ofA, kept = nanClause ofA) :
    known.any (isSubset · (nanClause ofA)) = false := by
  have apart : ∀ ofA, ∀ kept ∈ exchange, isSubset kept (nanClause ofA) = false := fun ofA =>
    List.forall_mem_cons.mpr ⟨by cases ofA <;> rfl,
      List.forall_mem_singleton.mpr (by cases ofA <;> rfl)⟩
  have apart' : ∀ ofA ofA', isSubset (nanClause ofA) (nanClause ofA') = false := by
    intro ofA ofA'
    cases ofA <;> cases ofA' <;> rfl
  refine List.any_eq_false.mpr fun kept inside => Bool.eq_false_iff.mp ?_
  rcases shape kept inside with among | ⟨ofA', rfl⟩
  · exact apart ofA kept among
  · exact apart' ofA' ofA

/-- **Settling one of the two clauses that name NaN adds the other one**, though it has been settled
as often as the round before last. -/
theorem closeRound_exchange (ofA : Bool) (spun : ∀ kept ∈ settled, ∃ ofA, kept = nanClause ofA) :
    closeRound (exchange ++ settled, [nanClause ofA]) =
      (exchange ++ (settled ++ [nanClause ofA]), [nanClause !ofA]) := by
  have shape : ∀ kept ∈ exchange ++ settled ++ [nanClause ofA] ++ [],
      kept ∈ exchange ∨ ∃ ofA, kept = nanClause ofA := by
    intro kept inside
    simp only [List.append_nil, List.mem_append, List.mem_singleton] at inside
    rcases inside with (among | among) | rfl
    · exact Or.inl among
    · exact Or.inr (spun kept among)
    · exact Or.inr ⟨ofA, rfl⟩
  have idle : ∀ ofA', (nanClause ofA').consensus (nanClause ofA) = none := fun ofA' => by
    cases ofA' <;> cases ofA <;> rfl
  have next : ∀ {earlier : Clause}, earlier.consensus (nanClause ofA) = some (nanClause !ofA) →
      addConsensus (exchange ++ settled ++ [nanClause ofA]) (nanClause ofA) [] earlier =
        [nanClause !ofA] := by
    intro earlier found
    rw [addConsensus, found]
    dsimp only
    rw [not_isSubset_nanClause (!ofA) shape]
    rfl
  have added : exchange.foldl
      (addConsensus (exchange ++ settled ++ [nanClause ofA]) (nanClause ofA)) [] =
        [nanClause !ofA] := by
    rw [exchange, List.foldl_cons, List.foldl_cons, List.foldl_nil]
    cases ofA with
    | true =>
      rw [← exchange, next rfl]
      rfl
    | false => exact next rfl
  have rest := @foldl_addConsensus_of_none _ (nanClause ofA) settled
    (exchange ++ settled ++ [nanClause ofA]) [nanClause !ofA] fun kept inside => by
      obtain ⟨ofA', rfl⟩ := spun kept inside
      exact idle ofA'
  rw [closeRound, newConsensus_eq_foldl, List.foldl_append, added, rest, List.append_assoc]
  rfl

/-- However many rounds there have been, one of the two clauses is pending. -/
theorem rounds_exchange (rounds : Nat) : ∃ settled ofA,
    (∀ kept ∈ settled, ∃ ofA, kept = nanClause ofA) ∧
      closeRound^[rounds] (exchange, [nanClause true]) = (exchange ++ settled, [nanClause ofA]) := by
  induction rounds with
  | zero => exact ⟨[], true, nofun, rfl⟩
  | succ rounds ih =>
    obtain ⟨settled, ofA, spun, same⟩ := ih
    refine ⟨settled ++ [nanClause ofA], !ofA, fun kept inside => ?_, ?_⟩
    · rcases List.mem_append.mp inside with among | last
      · exact spun kept among
      · exact ⟨ofA, List.mem_singleton.mp last⟩
    · rw [Function.iterate_succ_apply', same, closeRound_exchange ofA spun]

theorem pending_exchange : ∀ rounds,
    (closeRound^[rounds] ([], exchange ++ [nanClause true])).2 ≠ []
  | 0 => List.cons_ne_nil _ _
  | 1 => List.cons_ne_nil _ _
  | rounds + 2 => by
    obtain ⟨settled, ofA, -, same⟩ := rounds_exchange rounds
    rw [Function.iterate_add_apply]
    have start : closeRound^[2] ([], exchange ++ [nanClause true]) =
        (exchange, [nanClause true]) := by rfl
    rw [start, same]
    exact List.cons_ne_nil _ _

/-- The expressions `!a && b`, `!b && a` and `a && n == NaN`. -/
def endlessOperands : List Expression :=
  [conj [lacks none "a", has none "b"], conj [lacks none "b", has none "a"],
    conj [has none "a", equals none "n" (.number .nan)]]

end Endless

/-- The disjunction of `!a && b`, `!b && a` and `a && n == NaN` never returns. -/
theorem closure_without_end :
    (∀ operand ∈ endlessOperands, Built (· = none) operand) ∧
      (∃ clauses, Gathers endlessOperands (some clauses) ∧
        ∀ rounds, (closeRound^[rounds] ([], clauses)).2 ≠ []) ∧
      ∀ result, ¬DisjReturns endlessOperands result := by
  have shape : endlessOperands = (exchange ++ [nanClause true]).map ofClause := by
    have first : Clause.Consistent [.test (.has "a") false, .test (.has "b") true] :=
      List.pairwise_pair.mpr ⟨rfl, rfl⟩
    have second : Clause.Consistent [.test (.has "b") false, .test (.has "a") true] :=
      List.pairwise_pair.mpr ⟨rfl, rfl⟩
    have third : Clause.Consistent (nanClause true) := List.pairwise_pair.mpr ⟨rfl, rfl⟩
    rw [exchange, List.cons_append, List.cons_append, List.nil_append, List.map_cons, List.map_cons,
      List.map_cons, List.map_nil, ← conj_map_single first, ← conj_map_single second,
      ← conj_map_single third]
    rfl
  have test : ∀ question holds, Built (· = none) (ofTest none question holds) :=
    fun question holds => @Built.ofTest _ (· = none) none rfl question holds
  have pair : ∀ question holds question' holds', Built (· = none)
      (conj [ofTest none question holds, ofTest none question' holds']) :=
    fun question holds question' holds' => Built.conj (List.forall_mem_cons.mpr
      ⟨test question holds, List.forall_mem_singleton.mpr (test question' holds')⟩)
  have proper : [] ∉ exchange ++ [nanClause true] := by
    intro inside
    simp [exchange, nanClause] at inside
  have gathers : Gathers endlessOperands (some (exchange ++ [nanClause true])) :=
    ⟨3, by rw [shape]; exact gatherWithin_map_ofClause proper (Nat.le_refl 3)⟩
  refine ⟨?_, ⟨_, gathers, pending_exchange⟩, fun result returns => ?_⟩
  · exact List.forall_mem_cons.mpr ⟨pair _ _ _ _, List.forall_mem_cons.mpr ⟨pair _ _ _ _,
      List.forall_mem_singleton.mpr (pair _ _ _ _)⟩⟩
  · rcases disjReturns_iff.mp returns with ⟨none', -⟩ | ⟨clauses, closed, some', ⟨rounds, same⟩, -⟩
    · cases gathers.unique none'
    · cases gathers.unique some'
      exact pending_exchange rounds (by rw [same])

end WhenClause

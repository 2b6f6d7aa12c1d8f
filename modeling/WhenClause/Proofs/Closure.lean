/-
**Closing under consensus.**

`closeWithin` settles one pending clause after the other. `Closing` is what holds throughout: every
clause is given or the consensus of two others (`Derived`), any two settled clauses have a consensus
that is covered, and what has been added includes nothing that was there before it (`Fresh`).

* `Closing.settle`: settling one clause keeps the invariant;
* `closeWithin_closing`: so it holds of what the closure ends with, and where the limit stops it;
* `anyValue_closeWithin`: the closure keeps the value of the clauses.
-/

import WhenClause.Proofs.Absorption
import WhenClause.Proofs.Consensus

namespace WhenClause

open Clause (isSubset)

variable [PatternEngine]
variable {clause resolvent : Clause} {clauses known added more settled pending closed : List Clause}

/-! ### Fresh clauses -/

/-- Clauses of which none includes a known one or one before it. -/
structure Fresh (known added : List Clause) : Prop where
  known : ∀ clause ∈ added, ∀ earlier ∈ known, isSubset earlier clause = false
  added : added.Pairwise fun earlier later => isSubset earlier later = false

theorem Fresh.nil : Fresh known [] := ⟨nofun, List.Pairwise.nil⟩

/-- Clauses that are fresh beside known and fresh ones are fresh together with these. -/
theorem Fresh.append (first : Fresh known added) (second : Fresh (known ++ added) more) :
    Fresh known (added ++ more) := by
  constructor
  · intro clause member earlier among
    rcases List.mem_append.mp member with inside | inside
    · exact first.known clause inside earlier among
    · exact second.known clause inside earlier (List.mem_append_left _ among)
  · refine List.pairwise_append.mpr ⟨first.added, second.added, ?_⟩
    intro earlier among later inside
    exact second.known later inside earlier (List.mem_append_right _ among)

theorem Fresh.singleton (apart : known.any (isSubset · clause) = false) : Fresh known [clause] := by
  refine ⟨fun other member earlier among => ?_, List.pairwise_singleton _ _⟩
  rw [List.mem_singleton.mp member]
  simpa using List.any_eq_false.mp apart earlier among

/-! ### One round -/

/-- Adding the consensus of one settled clause with the clause to be settled. -/
def addConsensus (known : List Clause) (clause : Clause) (added : List Clause) (earlier : Clause) :
    List Clause :=
  match earlier.consensus clause with
  | none => added
  | some resolvent =>
    if (known ++ added).any (isSubset · resolvent) then added else added ++ [resolvent]

theorem newConsensus_eq_foldl (settled known : List Clause) (clause : Clause) :
    newConsensus settled known clause = settled.foldl (addConsensus known clause) [] := rfl

/-- What holds of the clauses added in a round: each is a consensus, none includes what was there
before it, and every consensus is covered. -/
structure Round (settled known : List Clause) (clause : Clause) (added : List Clause) : Prop where
  consensus : ∀ resolvent ∈ added, ∃ earlier ∈ settled, earlier.consensus clause = some resolvent
  fresh : Fresh known added
  covers : ∀ earlier ∈ settled, ∀ resolvent, earlier.consensus clause = some resolvent →
    Covered (known ++ added) resolvent

theorem Round.nil : Round [] known clause [] := ⟨nofun, Fresh.nil, nofun⟩

/-- A round goes on with the next settled clause. -/
theorem Round.add (round : Round settled known clause added) (next : Clause) :
    Round (settled ++ [next]) known clause (addConsensus known clause added next) := by
  have split : ∀ {earlier}, earlier ∈ settled ++ [next] → earlier ∈ settled ∨ earlier = next :=
    fun inside => (List.mem_append.mp inside).imp_right List.mem_singleton.mp
  have old : ∀ resolvent ∈ added, ∃ earlier ∈ settled ++ [next],
      earlier.consensus clause = some resolvent := by
    intro resolvent member
    obtain ⟨earlier, among, found⟩ := round.consensus resolvent member
    exact ⟨earlier, List.mem_append_left _ among, found⟩
  unfold addConsensus
  split
  · rename_i none'
    refine ⟨old, round.fresh, fun earlier inside resolvent found => ?_⟩
    rcases split inside with among | rfl
    · exact round.covers earlier among resolvent found
    · rw [none'] at found
      cases found
  rename_i resolvent found
  split
  · rename_i covered
    refine ⟨old, round.fresh, fun earlier inside other found' => ?_⟩
    rcases split inside with among | rfl
    · exact round.covers earlier among other found'
    · obtain rfl := Option.some.inj (found.symm.trans found')
      obtain ⟨kept, among, below⟩ := List.any_eq_true.mp covered
      exact ⟨kept, among, Or.inr below⟩
  · rename_i apart
    refine ⟨fun other member => ?_, round.fresh.append (Fresh.singleton (by simpa using apart)),
      fun earlier inside other found' => ?_⟩
    · rcases List.mem_append.mp member with member | member
      · exact old other member
      · rw [List.mem_singleton.mp member]
        exact ⟨next, by simp, found⟩
    · rw [← List.append_assoc]
      rcases split inside with among | rfl
      · exact (round.covers earlier among other found').mono (List.subset_append_left _ _)
      · obtain rfl := Option.some.inj (found.symm.trans found')
        exact Covered.of_mem (by simp)

theorem round_newConsensus (settled known : List Clause) (clause : Clause) :
    Round settled known clause (newConsensus settled known clause) := by
  rw [newConsensus_eq_foldl]
  have run : ∀ (done rest added : List Clause), Round done known clause added →
      Round (done ++ rest) known clause (rest.foldl (addConsensus known clause) added) := by
    intro done rest
    induction rest generalizing done with
    | nil =>
      intro added round
      rw [List.append_nil]
      exact round
    | cons next rest ih =>
      intro added round
      have longer := ih (done ++ [next]) _ (round.add next)
      rw [List.append_assoc] at longer
      exact longer
  exact run [] settled [] Round.nil

/-! ### The whole run -/

/-- The clauses given, and the consensus of any two clauses derived from them. -/
inductive Derived (clauses : List Clause) : Clause → Prop where
  | given {clause : Clause} (member : clause ∈ clauses) : Derived clauses clause
  | consensus {left right resolvent : Clause} (first : Derived clauses left)
      (second : Derived clauses right) (found : left.consensus right = some resolvent) :
      Derived clauses resolvent

/-- Where a derived clause is true, one of the clauses given is. -/
theorem Derived.anyValue {assignment : Assignment} (derived : Derived clauses clause)
    (holds : clause.value assignment = true) : anyValue assignment clauses = true := by
  induction derived with
  | given member => exact (anyValue_eq_true assignment).mpr ⟨_, member, holds⟩
  | consensus _ _ found first second =>
    rcases Clause.value_of_consensus found holds with left | right
    · exact first left
    · exact second right

theorem Derived.consistent (consistent : ∀ clause ∈ clauses, clause.Consistent)
    (derived : Derived clauses clause) : clause.Consistent := by
  induction derived with
  | given member => exact consistent _ member
  | consensus _ _ found first second => exact first.consensus second found

/-- Every literal of a derived clause stands in a clause given. -/
theorem Derived.exists_mem {literal : Literal} (derived : Derived clauses clause)
    (member : literal ∈ clause) : ∃ given ∈ clauses, literal ∈ given := by
  induction derived with
  | given inside => exact ⟨_, inside, member⟩
  | consensus _ _ found first second =>
    rcases Clause.mem_of_mem_consensus found member with left | right
    · exact first (Clause.mem_unopposed.mp left).1
    · exact second (Clause.mem_unopposed.mp right).1

/-- **The invariant of the closure.** -/
structure Closing (clauses settled pending : List Clause) : Prop where
  extends' : ∃ added, settled ++ pending = clauses ++ added ∧ Fresh clauses added
  derived : ∀ clause ∈ settled ++ pending, Derived clauses clause
  joined : settled.Pairwise fun left right => ∀ resolvent, left.consensus right = some resolvent →
    Covered (settled ++ pending) resolvent

theorem Closing.start (clauses : List Clause) : Closing clauses [] clauses :=
  ⟨⟨[], by simp, Fresh.nil⟩, fun _ member => Derived.given member, List.Pairwise.nil⟩

/-- **Settling one clause keeps the invariant.** -/
theorem Closing.settle {rest : List Clause} (closing : Closing clauses settled (clause :: rest)) :
    Closing clauses (settled ++ [clause])
      (rest ++ newConsensus settled (settled ++ clause :: rest) clause) := by
  have round := round_newConsensus settled (settled ++ clause :: rest) clause
  generalize newConsensus settled (settled ++ clause :: rest) clause = added at round ⊢
  have order : settled ++ [clause] ++ (rest ++ added) = settled ++ clause :: rest ++ added := by
    simp
  refine ⟨?_, ?_, ?_⟩
  · obtain ⟨before, same, fresh⟩ := closing.extends'
    refine ⟨before ++ added, by rw [order, same, List.append_assoc], ?_⟩
    exact fresh.append (same ▸ round.fresh)
  · rw [order]
    intro other member
    rcases List.mem_append.mp member with old | new
    · exact closing.derived other old
    · obtain ⟨earlier, among, found⟩ := round.consensus other new
      exact Derived.consensus (closing.derived earlier (List.mem_append_left _ among))
        (closing.derived clause (by simp)) found
  · rw [order]
    refine List.pairwise_append.mpr ⟨?_, List.pairwise_singleton _ _, ?_⟩
    · exact closing.joined.imp fun covered resolvent found =>
        (covered resolvent found).mono (List.subset_append_left _ _)
    · intro earlier among last isLast
      rw [List.mem_singleton.mp isLast]
      exact round.covers earlier among

/-- **A run of the closure.** It ends with everything settled, or it stops at more clauses than the
limit allows; the invariant holds there. -/
theorem closeWithin_run (limit : Nat) (closing : Closing clauses settled pending) :
    (∃ closed, closeWithin limit settled pending = .ok closed ∧ Closing clauses closed []) ∨
      ∃ error, closeWithin limit settled pending = .error error ∧
        ∃ settled' pending', Closing clauses settled' pending' ∧
          limit < settled'.length + pending'.length := by
  induction settled, pending using closeWithin.induct limit with
  | case1 settled =>
    rw [closeWithin]
    exact Or.inl ⟨settled, rfl, closing⟩
  | case2 settled clause rest added error counted =>
    refine Or.inr ⟨error, closeWithin_cons_of_error counted, _, _, closing.settle, ?_⟩
    rw [appendWithin_eq] at counted
    split at counted
    · cases counted
    · rename_i beyond
      have beyond := (not_or.mp beyond).2
      simp only [added, List.length_append, List.length_cons, List.length_nil] at beyond ⊢
      omega
  | case3 settled clause rest added held counted ih =>
    rw [closeWithin_cons_of_ok counted]
    exact ih closing.settle

/-- What the closure ends with. -/
theorem closing_of_closeWithin {limit : Nat} (run : closeWithin limit [] clauses = .ok closed) :
    Closing clauses closed [] := by
  rcases closeWithin_run limit (Closing.start clauses) with
    ⟨closed', run', closing⟩ | ⟨_, failed, -⟩
  · rw [run] at run'
    cases run'
    exact closing
  · rw [run] at failed
    cases failed

/-- **The closure keeps the value of the clauses.** -/
theorem anyValue_closeWithin {limit : Nat} (assignment : Assignment)
    (run : closeWithin limit [] clauses = .ok closed) :
    anyValue assignment closed = anyValue assignment clauses := by
  have closing := closing_of_closeWithin run
  obtain ⟨added, same, -⟩ := closing.extends'
  have derived := closing.derived
  rw [List.append_nil] at same derived
  rw [Bool.eq_iff_iff]
  constructor
  · intro holds
    obtain ⟨clause, member, value⟩ := (anyValue_eq_true assignment).mp holds
    exact (derived clause member).anyValue value
  · intro holds
    rw [same, anyValue_append, holds, Bool.true_or]

end WhenClause

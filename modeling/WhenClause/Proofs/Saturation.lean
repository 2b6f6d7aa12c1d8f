/-
**Saturated clauses include every implicant.**

Clauses are `Saturated` if the consensus of any two of them includes one of them. Whatever is enough
for such clauses to hold then includes one of them, by the following induction on the tests that a
clause leaves open. If none is left, the clause itself is an assignment (`Clause.assignment`), and a
clause that is true under it is included. Otherwise a test is added with either polarity; each time
a clause is included, and if both mention the test, their consensus does not (`Saturated.drop`).

* `Saturated.exists_isSubset`: what is enough for saturated clauses to hold includes one of them;
* `saturated_ofClausesWithin`: the clauses of a canonical form without NaN are saturated.
-/

import WhenClause.Proofs.Limit

namespace WhenClause

open Clause (isSubset)

variable [PatternEngine]
variable {clause left right : Clause} {clauses : List Clause} {question : Test} {literal : Literal}

/-! ### Consensus below a clause -/

namespace Clause

/-- What is included in a clause with one more literal but lacks that literal. -/
theorem isSubset_of_isSubset_cons (below : isSubset left (literal :: clause) = true)
    (absent : left.contains literal = false) : isSubset left clause = true := by
  have split : isSubset left ([] ++ clause) = true := isSubset_split below absent
  exact split

/-- A literal of what is included in a clause with one more literal. -/
theorem beq_or_contains (below : isSubset left (literal :: clause) = true) {other : Literal}
    (inside : other ∈ left) : (other == literal) = true ∨ clause.contains other = true := by
  have contained := isSubset_iff.mp below other inside
  rw [List.contains_cons, Bool.or_eq_true] at contained
  exact contained

section Consensus

variable {first second : Literal} (complement : first.isComplement second = true)
  (below : isSubset left (first :: clause) = true)

include complement below

/-- But for a pair of complements, what two clauses have in a consistent clause is unopposed. -/
theorem mem_unopposed_of_isSubset_cons (consistent : clause.Consistent)
    (below' : isSubset right (second :: clause) = true) (inside : literal ∈ left)
    (differs : (literal == first) = false) : literal ∈ unopposed left right := by
  refine mem_unopposed.mpr ⟨inside, fun other among => ?_⟩
  rcases beq_or_contains below' among with same | contained'
  · rw [Literal.isComplement_congr_right same, Bool.eq_false_iff]
    intro opposite
    rw [Literal.beq_of_isComplement opposite complement] at differs
    cases differs
  rcases beq_or_contains below inside with same | contained
  · rw [same] at differs
    cases differs
  · exact consistent.not_isComplement contained contained'

theorem contains_of_mem_unopposed (has : right.contains second = true)
    (member : literal ∈ unopposed left right) : clause.contains literal = true := by
  obtain ⟨inside, apart⟩ := mem_unopposed.mp member
  rcases beq_or_contains below inside with same | contained
  · obtain ⟨partner, among, isPartner⟩ := List.contains_iff_exists_mem_beq.mp has
    have opposite := apart partner among
    rw [Literal.isComplement_congr_left same, ← Literal.isComplement_congr_right isPartner,
      complement] at opposite
    cases opposite
  · exact contained

/-- **Two clauses that have a pair of complements, and are otherwise included in a third one, have a
consensus that is included there.** -/
theorem exists_consensus (below' : isSubset right (second :: clause) = true)
    (consistent : clause.Consistent) (consistentLeft : left.Consistent)
    (consistentRight : right.Consistent) (has : left.contains first = true)
    (has' : right.contains second = true) :
    ∃ resolvent, left.consensus right = some resolvent ∧ isSubset resolvent clause = true := by
  have complement' : second.isComplement first = true := by
    rw [Literal.isComplement_comm]
    exact complement
  obtain ⟨pivot, pivot_mem, isPivot⟩ := List.contains_iff_exists_mem_beq.mp has
  obtain ⟨partner, partner_mem, isPartner⟩ := List.contains_iff_exists_mem_beq.mp has'
  have opposed : Opposed left right pivot partner := by
    refine ⟨?_, pivot_mem, partner_mem, fun literal inside => ?_, fun literal inside => ?_⟩
    · rw [← Literal.isComplement_congr_left isPivot, ← Literal.isComplement_congr_right isPartner]
      exact complement
    · cases same : literal == first with
      | true => exact Or.inl (consistentLeft.eq_of_beq inside pivot_mem (BEq.trans same isPivot))
      | false =>
        exact Or.inr
          (mem_unopposed_of_isSubset_cons complement below consistent below' inside same)
    · cases same : literal == second with
      | true =>
        exact Or.inl (consistentRight.eq_of_beq inside partner_mem (BEq.trans same isPartner))
      | false =>
        exact Or.inr
          (mem_unopposed_of_isSubset_cons complement' below' consistent below inside same)
  refine ⟨_, (consensus_eq left right).trans
    (if_pos (opposed.opposition_eq_one consistentLeft consistentRight)), ?_⟩
  refine isSubset_iff.mpr fun literal member => ?_
  rcases mem_foldl_add member with member | member
  · exact contains_of_mem_unopposed complement below has' member
  · exact contains_of_mem_unopposed complement' below' has member

end Consensus

/-! ### A clause as an assignment -/

/-- A clause as an assignment: of tests and comparisons those are true that it contains. -/
def assignment (clause : Clause) : Assignment where
  answer question := clause.contains (.test question true)
  compare key comparison bound := clause.contains (.ordered key comparison bound)
  answer_congr same := List.contains_congr (by simp [same])
  compare_congr key comparison _ _ same := List.contains_congr (by simp [same])

/-- A consistent clause is true as it asks to be. -/
theorem Consistent.value_assignment (consistent : clause.Consistent) (nanFree : clause.NaNFree) :
    clause.value clause.assignment = true := by
  refine (value_eq_true _).mpr fun literal inside => ?_
  have contained := contains_self inside (nanFree literal inside)
  cases literal with
  | ordered key comparison bound => exact contained
  | test question holds =>
    cases holds with
    | true => exact beq_iff_eq.mpr contained
    | false =>
      have absent : clause.contains (.test question true) = false := by
        rw [Bool.eq_false_iff]
        intro also
        have apart := consistent.not_isComplement contained also
        have questions := (Test.beq_self_iff question).mpr (hasNaN_of_contains contained)
        rw [Literal.isComplement_test, Literal.test_beq, questions] at apart
        cases apart
      exact beq_iff_eq.mpr absent

/-- A clause contains a test with one polarity or the other. -/
def Decides (clause : Clause) (question : Test) : Prop :=
  ∃ holds, clause.contains (.test question holds) = true

/-- What is true under a clause as an assignment is included in it, if its tests are decided. -/
theorem isSubset_of_value_assignment (holds : left.value clause.assignment = true)
    (decided : ∀ question polarity, .test question polarity ∈ left → clause.Decides question) :
    isSubset left clause = true := by
  refine isSubset_iff.mpr fun literal inside => ?_
  have truth := (value_eq_true _).mp holds literal inside
  cases literal with
  | ordered key comparison bound => exact truth
  | test question polarity =>
    have answer : clause.contains (.test question true) = polarity := beq_iff_eq.mp truth
    cases polarity with
    | true => exact answer
    | false =>
      obtain ⟨polarity, contained⟩ := decided question false inside
      cases polarity with
      | true =>
        rw [contained] at answer
        cases answer
      | false => exact contained

end Clause

/-! ### Saturated clauses -/

/-- The consensus of two clauses, if they have one, includes one of some clauses. -/
def Joins (clauses : List Clause) (left right : Clause) : Prop :=
  ∀ resolvent, left.consensus right = some resolvent →
    ∃ kept ∈ clauses, isSubset kept resolvent = true

/-- Consistent clauses without NaN of which any two have a consensus that includes one of them. -/
structure Saturated (clauses : List Clause) : Prop where
  nanFree : ∀ clause ∈ clauses, clause.NaNFree
  consistent : ∀ clause ∈ clauses, clause.Consistent
  joined : clauses.Pairwise (Joins clauses)

/-- Clauses that have a pair of complements, and are otherwise included in another clause, join to one
that is included there. -/
theorem Joins.exists_isSubset (joined : Joins clauses left right) (consistent : clause.Consistent)
    (consistentLeft : left.Consistent) (consistentRight : right.Consistent)
    {first second : Literal} (complement : first.isComplement second = true)
    (below : isSubset left (first :: clause) = true)
    (below' : isSubset right (second :: clause) = true) (has : left.contains first = true)
    (has' : right.contains second = true) : ∃ kept ∈ clauses, isSubset kept clause = true := by
  obtain ⟨resolvent, found, under⟩ := Clause.exists_consensus complement below below' consistent
    consistentLeft consistentRight has has'
  obtain ⟨kept, among, included⟩ := joined resolvent found
  exact ⟨kept, among, Clause.isSubset_trans included under⟩

/-- **A test that a clause leaves open can be dropped.** If one clause is included with the test and
one with its complement, then one is included without either. -/
theorem Saturated.drop (saturated : Saturated clauses) (consistent : clause.Consistent)
    {first second : Literal} (complement : first.isComplement second = true)
    (inside : left ∈ clauses) (inside' : right ∈ clauses)
    (below : isSubset left (first :: clause) = true)
    (below' : isSubset right (second :: clause) = true) :
    ∃ kept ∈ clauses, isSubset kept clause = true := by
  by_cases has : left.contains first = true
  swap
  · exact ⟨left, inside, Clause.isSubset_of_isSubset_cons below (Bool.eq_false_iff.mpr has)⟩
  by_cases has' : right.contains second = true
  swap
  · exact ⟨right, inside', Clause.isSubset_of_isSubset_cons below' (Bool.eq_false_iff.mpr has')⟩
  have consistentLeft := saturated.consistent left inside
  have consistentRight := saturated.consistent right inside'
  have differ : left ≠ right := by
    rintro rfl
    rw [consistentLeft.not_isComplement has has'] at complement
    cases complement
  rcases rel_or_rel_of_ne saturated.joined inside inside' differ with joined | joined
  · exact joined.exists_isSubset consistent consistentLeft consistentRight complement below below'
      has has'
  · rw [Literal.isComplement_comm] at complement
    exact joined.exists_isSubset consistent consistentRight consistentLeft complement below' below
      has' has

/-- A test that a clause leaves open can be added with either polarity. -/
theorem Clause.Consistent.cons (consistent : clause.Consistent) (open' : ¬clause.Decides question)
    (holds : Bool) : Clause.Consistent (.test question holds :: clause) := by
  have absent : ∀ polarity, ∀ member ∈ clause, (.test question polarity == member) = false := by
    intro polarity member inside
    rw [Bool.eq_false_iff]
    exact fun same => open' ⟨polarity, List.contains_iff_exists_mem_beq.mpr ⟨member, inside, same⟩⟩
  refine List.pairwise_cons.mpr ⟨fun member inside => ⟨absent holds member inside, ?_⟩, consistent⟩
  rw [Literal.isComplement_test]
  exact absent (!holds) member inside

/-- **What is enough for saturated clauses to hold includes one of them.** The induction is on the
literals whose tests may be open. -/
theorem Saturated.exists_isSubset_of_open (saturated : Saturated clauses) (undecided : List Literal)
    (nanFree' : ∀ literal ∈ undecided, literal.hasNaN = false) (consistent : clause.Consistent)
    (nanFree : clause.NaNFree)
    (enough : ∀ assignment, clause.value assignment = true → anyValue assignment clauses = true)
    (decided : ∀ kept ∈ clauses, ∀ question polarity, .test question polarity ∈ kept →
      clause.Decides question ∨ ∃ polarity', .test question polarity' ∈ undecided) :
    ∃ kept ∈ clauses, isSubset kept clause = true := by
  induction undecided generalizing clause with
  | nil =>
    obtain ⟨kept, among, holds⟩ := (anyValue_eq_true _).mp
      (enough clause.assignment (consistent.value_assignment nanFree))
    refine ⟨kept, among, Clause.isSubset_of_value_assignment holds ?_⟩
    intro question polarity inside
    rcases decided kept among question polarity inside with decides | ⟨_, absent⟩
    · exact decides
    · cases absent
  | cons literal undecided ih =>
    obtain ⟨notNaN, nanFree'⟩ := List.forall_mem_cons.mp nanFree'
    -- the induction goes on with a clause that decides what this literal asks
    have further : ∀ clause' : Clause, clause'.Consistent → clause'.NaNFree →
        (∀ assignment, clause'.value assignment = true → clause.value assignment = true) →
        (∀ question, clause.Decides question → clause'.Decides question) →
        (∀ question polarity, literal = .test question polarity → clause'.Decides question) →
        ∃ kept ∈ clauses, isSubset kept clause' = true := by
      intro clause' consistent' nanFree'' stronger more decides
      refine ih nanFree' consistent' nanFree'' (fun assignment holds =>
        enough assignment (stronger assignment holds)) fun kept among question polarity inside => ?_
      rcases decided kept among question polarity inside with old | ⟨polarity', member⟩
      · exact Or.inl (more question old)
      rcases List.mem_cons.mp member with same | member
      · exact Or.inl (decides question polarity' same.symm)
      · exact Or.inr ⟨polarity', member⟩
    cases literal with
    | ordered key comparison bound =>
      refine further clause consistent nanFree (fun _ holds => holds) (fun _ decides => decides) ?_
      rintro _ _ ⟨⟩
    | test question polarity =>
      by_cases decides : clause.Decides question
      · refine further clause consistent nanFree (fun _ holds => holds)
          (fun _ decides => decides) ?_
        rintro _ _ ⟨⟩
        exact decides
      have questions := (Test.beq_self_iff question).mpr notNaN
      have half : ∀ holds : Bool, ∃ kept ∈ clauses,
          isSubset kept (.test question holds :: clause) = true := by
        intro holds
        refine further _ (consistent.cons decides holds)
          (List.forall_mem_cons.mpr ⟨notNaN, nanFree⟩) ?_ ?_ ?_
        · intro assignment value
          rw [Clause.value_cons, Bool.and_eq_true] at value
          exact value.2
        · rintro question' ⟨polarity', contained⟩
          refine ⟨polarity', ?_⟩
          rw [List.contains_cons, contained, Bool.or_true]
        · rintro _ _ ⟨⟩
          refine ⟨holds, Clause.contains_self List.mem_cons_self notNaN⟩
      obtain ⟨left, inside, below⟩ := half true
      obtain ⟨right, inside', below'⟩ := half false
      refine saturated.drop consistent ?_ inside inside' below below'
      rw [Literal.isComplement_test, Literal.test_beq, questions]
      rfl

/-- **What is enough for saturated clauses to hold includes one of them.** -/
theorem Saturated.exists_isSubset (saturated : Saturated clauses) (consistent : clause.Consistent)
    (nanFree : clause.NaNFree)
    (enough : ∀ assignment, clause.value assignment = true → anyValue assignment clauses = true) :
    ∃ kept ∈ clauses, isSubset kept clause = true := by
  refine saturated.exists_isSubset_of_open clauses.flatten (fun literal member => ?_) consistent
    nanFree enough fun kept among question polarity inside =>
      Or.inr ⟨polarity, List.mem_flatten.mpr ⟨kept, among, inside⟩⟩
  obtain ⟨kept, among, inside⟩ := List.mem_flatten.mp member
  exact saturated.nanFree kept among literal inside

/-- **The clauses of a canonical form without NaN are saturated.** -/
theorem saturated_ofClausesWithin {result : Expression} {limit : Nat}
    (consistent : ∀ clause ∈ clauses, clause.Consistent)
    (run : Expression.ofClausesWithin limit clauses = .ok result) (nanFree : result.NaNFree) :
    Saturated result.clauses := by
  obtain ⟨closed, closes, same⟩ := ofClausesWithin_eq_ok run
  have consistent' := consistent_closeWithin consistent closes
  have joined := (closing_of_closeWithin closes).joined
  refine ⟨nanFree, consistent_ofClausesWithin consistent run, ?_⟩
  have inherited := joined.sublist (minimal_sublist closed)
  rw [← same] at inherited
  refine inherited.imp_of_mem fun {left right} inside inside' joined resolvent found => ?_
  have nanFree' : resolvent.NaNFree := by
    intro literal member
    rcases Clause.mem_of_mem_consensus found member with member | member
    · exact nanFree left inside literal (Clause.mem_unopposed.mp member).1
    · exact nanFree right inside' literal (Clause.mem_unopposed.mp member).1
  have covered := joined resolvent found
  rw [List.append_nil] at covered
  obtain ⟨middle, among, below⟩ := covered.exists_isSubset nanFree'
  rw [same]
  exact ((covered_minimal consistent' among).of_isSubset below).exists_isSubset nanFree'

end WhenClause

/-
**The order of expressions.**

Whether an expression implies another one is found by comparing clauses. A disjunction gathers
clauses, a conjunction multiplies them out, a negation does both, and equality pairs them off. On
canonical forms without NaN all of them agree on one order, that of truth values: canonical forms
are equal as soon as they have one value under every assignment, and constant as soon as their
value is.

* `implies_iff_disj_beq`, `implies_iff_conj_beq`: one expression implies another exactly if it adds
  nothing to their disjunction, and exactly if the other takes nothing from their conjunction;
* `implies_both_iff_beq`: expressions imply each other exactly if they are equal;
* `implies_iff_conj_negate`: one implies another without comparisons exactly if it excludes the
  negation of that;
* `implies_iff_joins`: all of it together; and so the answers of the program about two texts agree.
-/

import WhenClause.CommandLine.Run
import WhenClause.Proofs.Raising
import WhenClause.Regex.Engine

namespace WhenClause

open Expression

section Engine

variable [PatternEngine]
variable {known : Facts → Prop} {facts : Facts} {stronger weaker : Expression}

/-! ### Implication and joins -/

section Joins

variable (formed : stronger.Formed) (formed' : weaker.Formed) (nanFree : stronger.NaNFree)
  (nanFree' : weaker.NaNFree)

include nanFree nanFree'

theorem value_conj_pair (assignment : Assignment) :
    (conj [stronger, weaker]).value assignment =
      (stronger.value assignment && weaker.value assignment) := by
  rw [value_conj assignment (forall_mem_pair nanFree nanFree')]
  simp

include formed formed'

theorem value_disj_pair (assignment : Assignment) :
    (disj [stronger, weaker]).value assignment =
      (stronger.value assignment || weaker.value assignment) := by
  rw [value_disj assignment
    (fun operand among => (forall_mem_pair formed formed' operand among).consistent)
    (forall_mem_pair nanFree nanFree')]
  simp

/-- **An expression implies another one exactly if it adds nothing to their disjunction.** -/
theorem implies_iff_disj_beq :
    stronger.implies weaker = true ↔ (disj [stronger, weaker] == weaker) = true := by
  have joined : (disj [stronger, weaker]).Formed :=
    kept_formed.disj (forall_mem_pair formed formed')
  constructor
  · intro implied
    refine beq_of_value_eq joined formed' (kept_nanFree.disj (forall_mem_pair nanFree nanFree'))
      nanFree' fun assignment => ?_
    rw [value_disj_pair formed formed' nanFree nanFree']
    cases holds : stronger.value assignment with
    | false => rw [Bool.false_or]
    | true => rw [value_of_implies implied assignment holds, Bool.true_or]
  · intro equal
    refine implies_of_value formed formed' nanFree nanFree' fun assignment holds => ?_
    have same := value_eq_of_beq joined formed' equal assignment
    rw [value_disj_pair formed formed' nanFree nanFree', holds, Bool.true_or] at same
    exact same.symm

/-- **An expression implies another one exactly if that takes nothing from their conjunction.** -/
theorem implies_iff_conj_beq :
    stronger.implies weaker = true ↔ (conj [stronger, weaker] == stronger) = true := by
  have joined : (conj [stronger, weaker]).Formed :=
    kept_formed.conj (forall_mem_pair formed formed')
  constructor
  · intro implied
    refine beq_of_value_eq joined formed (kept_nanFree.conj (forall_mem_pair nanFree nanFree'))
      nanFree fun assignment => ?_
    rw [value_conj_pair nanFree nanFree']
    cases holds : stronger.value assignment with
    | false => rw [Bool.false_and]
    | true => rw [value_of_implies implied assignment holds, Bool.true_and]
  · intro equal
    refine implies_of_value formed formed' nanFree nanFree' fun assignment holds => ?_
    have same := value_eq_of_beq joined formed equal assignment
    rw [value_conj_pair nanFree nanFree', holds, Bool.true_and] at same
    exact same

/-- **Expressions imply each other exactly if they are equal.** -/
theorem implies_both_iff_beq :
    stronger.implies weaker = true ∧ weaker.implies stronger = true ↔
      (stronger == weaker) = true := by
  constructor
  · rintro ⟨forward, backward⟩
    refine beq_of_value_eq formed formed' nanFree nanFree' fun assignment => ?_
    exact Bool.eq_iff_iff.mpr
      ⟨value_of_implies forward assignment, value_of_implies backward assignment⟩
  · intro equal
    have same := value_eq_of_beq formed formed' equal
    exact ⟨implies_of_value formed formed' nanFree nanFree' fun assignment holds =>
        (same assignment).symm.trans holds,
      implies_of_value formed' formed nanFree' nanFree fun assignment holds =>
        (same assignment).trans holds⟩

/-- **An expression implies another one without comparisons exactly if it excludes the negation of
that.** A comparison does not exclude its opposite. -/
theorem implies_iff_conj_negate (free : weaker.Free facts) (tests : weaker.ComparisonFree) :
    stronger.implies weaker = true ↔ conj [stronger, weaker.negate facts] = never := by
  have negated : (weaker.negate facts).NaNFree := kept_nanFree.negate trivial nanFree'
  have formed'' : (weaker.negate facts).Formed := kept_formed.negate trivial formed'
  have joined : (conj [stronger, weaker.negate facts]).Canonical :=
    (kept_formed.conj (forall_mem_pair formed formed'')).canonical
      (kept_nanFree.conj (forall_mem_pair nanFree negated))
  have value : ∀ assignment, (conj [stronger, weaker.negate facts]).value assignment =
      (stronger.value assignment && !weaker.value assignment) := fun assignment => by
    rw [value_conj_pair nanFree negated, value_negate assignment free nanFree',
      value_dual_of_comparisonFree assignment tests]
  rw [joined.never_iff]
  constructor
  · intro implied assignment
    rw [value]
    cases holds : stronger.value assignment with
    | false => rw [Bool.false_and]
    | true => rw [value_of_implies implied assignment holds, Bool.not_true, Bool.and_false]
  · intro never'
    refine implies_of_value formed formed' nanFree nanFree' fun assignment holds => ?_
    have none' := never' assignment
    rw [value, holds, Bool.true_and] at none'
    simpa using none'

end Joins

/-! ### Answers of the program -/

namespace CommandLine

variable {files : Files} {limitsFile : Option String} {limits : Limits} {command : Command}
  {text left right output : String} {expression expression' : Expression}

/-- The answer yes or no. -/
def Answer.ofBool (holds : Bool) : Answer := .success (line (Value.booleanText holds))

theorem parseOperand_eq_ok (read : parse facts limits text = .ok expression) :
    parseOperand facts limits text = .ok expression := by
  rw [parseOperand, read]
  rfl

/-- The program answers what the command prints within the limits that are loaded. -/
theorem run_eq_success (loads : loadLimits files limitsFile = .ok limits)
    (prints : command.output files facts limits = .ok output) :
    run files (.run ⟨facts, limitsFile, command⟩) = .success output := by
  have whole : Invocation.output files ⟨facts, limitsFile, command⟩ = .ok output :=
    bind_eq_ok.mpr ⟨limits, loads, prints⟩
  rw [run, whole]

section Answers

variable (loads : loadLimits files limitsFile = .ok limits)
  (read : parse facts limits left = .ok expression)
  (read' : parse facts limits right = .ok expression')

include loads read read'

theorem run_implies :
    run files (.run ⟨facts, limitsFile, .implies left right⟩) =
      .ofBool (expression.implies expression') :=
  run_eq_success loads (bind_eq_ok.mpr ⟨expression, parseOperand_eq_ok read,
    bind_eq_ok.mpr ⟨expression', parseOperand_eq_ok read', rfl⟩⟩)

theorem run_equals :
    run files (.run ⟨facts, limitsFile, .equals left right⟩) =
      .ofBool (expression == expression') :=
  run_eq_success loads (bind_eq_ok.mpr ⟨expression, parseOperand_eq_ok read,
    bind_eq_ok.mpr ⟨expression', parseOperand_eq_ok read', rfl⟩⟩)

end Answers

/-- Whether either of two texts implies the other has such answers, and that they are equal is
answered by yes exactly if both are. The program may be given other limits each time, as long as
they let both texts through. -/
def AnswersAgree (files : Files) (facts : Facts) (left right : String) (forward backward : Bool) :
    Prop :=
  ∀ limitsFile limits, loadLimits files limitsFile = .ok limits →
    (∃ expression, parse facts limits left = .ok expression) →
    (∃ expression, parse facts limits right = .ok expression) →
      run files (.run ⟨facts, limitsFile, .implies left right⟩) = .ofBool forward ∧
      run files (.run ⟨facts, limitsFile, .implies right left⟩) = .ofBool backward ∧
      run files (.run ⟨facts, limitsFile, .equals left right⟩) = .ofBool (forward && backward)

/-- **The answers about two texts agree.** Each text writes one expression whatever the limits, and
these are equal exactly if they imply each other. -/
theorem answersAgree {limits' : Limits} (read : parse facts limits left = .ok expression)
    (read' : parse facts limits' right = .ok expression') (files : Files) :
    AnswersAgree files facts left right (expression.implies expression')
      (expression'.implies expression) := by
  rintro limitsFile limits loads ⟨again, parsed⟩ ⟨again', parsed'⟩
  obtain rfl := parse_unique read parsed
  obtain rfl := parse_unique read' parsed'
  have both : (expression.implies expression' && expression'.implies expression) =
      (expression == expression') := by
    rw [Bool.eq_iff_iff, Bool.and_eq_true]
    exact implies_both_iff_beq (kept_formed.parse trivial read) (kept_formed.parse trivial read')
      (kept_nanFree.parse trivial read) (kept_nanFree.parse trivial read')
  refine ⟨run_implies loads parsed parsed', run_implies loads parsed' parsed, ?_⟩
  rw [both]
  exact run_equals loads parsed parsed'

end CommandLine

/-! ### One order -/

/-- **Implication, joins, negation and equality agree on one order.** Of two built expressions
without NaN one implies the other exactly if their disjunction is the other one, exactly if their
conjunction is the one, and, where the other was built under the facts and has no comparison,
exactly if the one and the negation of the other are never both true. Each implies the other exactly
if they are equal. All joins and negations in this return. So the answers of the program agree about
any two texts that write the expressions. -/
theorem implies_iff_joins (built : Built known stronger) (built' : Built known weaker)
    (nanFree : stronger.NaNFree) (nanFree' : weaker.NaNFree) :
    (ConjReturns [stronger, weaker] (conj [stronger, weaker]) ∧
        DisjReturns [stronger, weaker] (disj [stronger, weaker])) ∧
      (stronger.implies weaker = true ↔ (disj [stronger, weaker] == weaker) = true) ∧
      (stronger.implies weaker = true ↔ (conj [stronger, weaker] == stronger) = true) ∧
      (stronger.implies weaker = true ∧ weaker.implies stronger = true ↔
        (stronger == weaker) = true) ∧
      (∀ facts, Built (· = facts) weaker → weaker.ComparisonFree →
        weaker.NegationEnds ∧
          ConjReturns [stronger, weaker.negate facts] (conj [stronger, weaker.negate facts]) ∧
          (stronger.implies weaker = true ↔ conj [stronger, weaker.negate facts] = never)) ∧
      ∀ facts limits limits' left right, parse facts limits left = .ok stronger →
        parse facts limits' right = .ok weaker → ∀ files,
          CommandLine.AnswersAgree files facts left right (stronger.implies weaker)
            (weaker.implies stronger) := by
  have formed := built.formed
  have formed' := built'.formed
  have pair := forall_mem_pair nanFree nanFree'
  refine ⟨⟨conjReturns_conj pair, disjReturns_disj pair⟩,
    implies_iff_disj_beq formed formed' nanFree nanFree',
    implies_iff_conj_beq formed formed' nanFree nanFree',
    implies_both_iff_beq formed formed' nanFree nanFree', fun facts now tests => ?_,
    fun _ _ _ _ _ => CommandLine.answersAgree⟩
  have negated : (weaker.negate facts).NaNFree := kept_nanFree.negate trivial nanFree'
  exact ⟨negationEnds nanFree', conjReturns_conj (forall_mem_pair nanFree negated),
    implies_iff_conj_negate formed formed' nanFree nanFree' now.free tests⟩

end Engine

/-- The text `a && n < '1'` writes the conjunction, and `a` the truth of the key. -/
theorem parse_bounded_key :
    parse none {} "a && n < '1'" =
        .ok (ofClause [.test (.has "a") true, .ordered "n" .less (.string "1")]) ∧
      parse none {} "a" = .ok (has none "a") := by
  have read : Grammar.read "a && n < '1'".toList = .ok (.any [.all [.test (.has ['a']),
      .test (.compare ['n'] (.ordered .less) (.string ['1']))]]) := by rfl
  have read' : Grammar.read "a".toList = .ok (.any [.all [.test (.has ['a'])]]) := by rfl
  have consistent : Clause.Consistent
      [.test (.has "a") true, .ordered "n" .less (.string "1")] :=
    List.pairwise_pair.mpr ⟨rfl, rfl⟩
  have tests : Grammar.Formula.buildAll none 256 "a && n < '1'".toList [.test (.has ['a']),
      .test (.compare ['n'] (.ordered .less) (.string ['1']))] =
        .ok ([.test (.has "a") true, .ordered "n" .less (.string "1")].map single) := by
    rw [Grammar.Formula.buildAll, Grammar.Formula.buildAll, Grammar.Formula.buildAll,
      Grammar.Formula.build, Grammar.Formula.build]
    rfl
  constructor
  · rw [parse_eq_build (by decide) (by decide) ⟨'a', by decide, by decide⟩ read]
    exact Grammar.build_join .any
      (Grammar.buildAll_join .all tests (conjWithin_map_single consistent 256))
      (ofClausesWithin_singleton 256 _)
  · rw [parse_eq_build (by decide) (by decide) ⟨'a', by decide, by decide⟩ read']
    exact Grammar.build_join .any (buildAll_test rfl) (ofClausesWithin_singleton 256 _)

/-- The expression `a && n < '1'` implies `a` and not the other way round. So `a && n < '1' || a` is
`a`, `a && n < '1' && a` is `a && n < '1'`, and `a && n < '1' && !a` is `false`; and the program,
asked about the two texts, answers the questions for implications by yes and no, and that they are
not equal. -/
theorem implies_iff_joins_bounded_key :
    (disj [ofClause [.test (.has "a") true, .ordered "n" .less (.string "1")], has none "a"] ==
        has none "a") = true ∧
      (conj [ofClause [.test (.has "a") true, .ordered "n" .less (.string "1")], has none "a"] ==
        ofClause [.test (.has "a") true, .ordered "n" .less (.string "1")]) = true ∧
      conj [ofClause [.test (.has "a") true, .ordered "n" .less (.string "1")],
        (has none "a").negate none] = never ∧
      CommandLine.AnswersAgree (fun _ => .error "") none "a && n < '1'" "a" true false := by
  obtain ⟨read, read'⟩ := parse_bounded_key
  have key : Built (· = none) (has none "a") := @Built.parse _ (· = none) none _ _ _ rfl read'
  have tests : (has none "a").ComparisonFree :=
    List.forall_mem_singleton.mpr (List.forall_mem_singleton.mpr rfl)
  obtain ⟨-, disj, conj, -, excludes, agree⟩ := implies_iff_joins
    (@Built.parse _ (· = none) none _ _ _ rfl read) key (by decide) (by decide)
  have forward : (ofClause [.test (.has "a") true, .ordered "n" .less (.string "1")]).implies
      (has none "a") = true := by decide
  exact ⟨disj.mp forward, conj.mp forward, (excludes none key tests).2.2.mp forward,
    agree none {} {} _ _ read read' _⟩

end WhenClause

/-
**Folding early and folding late.**

A literal that is built anew under facts asks about its atom what the facts leave of it: a constant,
the truth of a key, or the same question. So its value under an assignment is that of the literal
under another assignment, the one `underFacts`, and what holds of literals goes through clauses,
joins and negations to whole formulas.

* `value_ofLiteral`, `value_substituteConstants`: what is folded has the value of the expression
  under the facts;
* `Assignment.underFacts_underFacts`: folding again, under facts that are among them, changes nothing;
* `value_build_underFacts`: a formula that is built under the facts has the value, under the facts,
  of what it builds without them;
* `substituteConstants_parse`: so both are one canonical form.
-/

import WhenClause.Proofs.Complete
import WhenClause.Proofs.Equivalence
import WhenClause.Proofs.Folding
import WhenClause.Proofs.Parsing
import WhenClause.Regex.Engine

namespace WhenClause

open Expression Grammar

/-! ### Bounds and facts -/

theorem plainBound_congr {bound bound' : Value} (same : (bound == bound') = true) :
    (plainBound bound == plainBound bound') = true := by
  rcases (Value.beq_iff _ _).mp same with ⟨rfl, -⟩ | ⟨x, y, rfl, rfl, -⟩
  · cases bound with
    | boolean value => exact beq_self_eq_true (Value.booleanText value)
    | number value => exact same
    | string value => exact same
  · exact same

theorem plainBound_plainBound (bound : Value) : plainBound (plainBound bound) = plainBound bound := by
  cases bound <;> rfl

/-- What is known is not forgotten. -/
def Facts.Within (facts facts' : Facts) : Prop :=
  ∀ key constant, facts.constant? key = some constant → facts'.constant? key = some constant

theorem Facts.within_refl (facts : Facts) : facts.Within facts := fun _ _ found => found

theorem Facts.unresolved_within (facts : Facts) : unresolved.Within facts := nofun

section Engine

variable [PatternEngine]
variable {facts facts' : Facts} {platform : Platform} {expression result result' : Expression}
  {literal : Literal} {assignment : Assignment} {limit limit' : Nat} {text : List Char}

/-! ### Assignments under facts -/

/-- Tests that are the same fold alike. -/
theorem value_ofTest_congr (facts : Facts) (assignment : Assignment) {left right : Test}
    (same : (left == right) = true) :
    (ofTest facts left true).value assignment = (ofTest facts right true).value assignment := by
  rcases (Test.beq_iff _ _).mp same with ⟨rfl, -⟩ | ⟨key, value, value', rfl, rfl, values⟩
  · rfl
  rcases (Value.beq_iff _ _).mp values with ⟨rfl, -⟩ | ⟨x, y, rfl, rfl, numbers⟩
  · rfl
  rcases Double.eq_or_zero_of_beq numbers with rfl | ⟨zero, zero'⟩
  · rfl
  cases found : facts.constant? key with
  | some constant =>
    simp only [ofTest, found, Value.text, Double.text_of_zero zero, Double.text_of_zero zero']
  | none =>
    simp only [ofTest, found, value_single, Literal.value, assignment.answer_congr same]

/-- What the facts leave of an assignment: each atom has the value of the literal that is built for
it. -/
def Assignment.underFacts (facts : Facts) (assignment : Assignment) : Assignment where
  answer question := (ofTest facts question true).value assignment
  compare key comparison bound := assignment.compare key comparison (plainBound bound)
  answer_congr := value_ofTest_congr facts assignment
  compare_congr key comparison _ _ same :=
    assignment.compare_congr key comparison (plainBound_congr same)

/-- A test keeps its polarity through folding. -/
theorem value_ofTest (facts : Facts) (assignment : Assignment) (question : Test) (holds : Bool) :
    (ofTest facts question holds).value assignment =
      ((ofTest facts question true).value assignment == holds) := by
  have associative : ∀ truth value holds : Bool,
      (truth == (value == holds)) = ((truth == value) == holds) := by decide
  unfold ofTest
  split
  · split <;> simp [value_ofBool, value_single, Literal.value]
  · split <;> simp only [value_ofBool, value_single, Literal.value, beq_true, associative]
  · split <;> simp [value_ofBool, value_single, Literal.value]
  · simp [value_single, Literal.value]

/-- **A literal that is built under the facts has its value under them.** -/
theorem value_ofLiteral (facts : Facts) (assignment : Assignment) (literal : Literal) :
    (ofLiteral facts literal).value assignment = literal.value (assignment.underFacts facts) := by
  cases literal with
  | test question holds => exact value_ofTest facts assignment question holds
  | ordered key comparison bound => exact value_single assignment _

/-- **A folded expression has the value of the expression under the facts.** -/
theorem value_substituteConstants (facts : Facts) (assignment : Assignment)
    (nanFree : expression.NaNFree) :
    (expression.substituteConstants facts).value assignment =
      expression.value (assignment.underFacts facts) := by
  rw [substituteConstants, value_rename assignment id nanFree]
  simp only [Literal.rename_id, value_ofLiteral]
  rfl

/-! ### Folding again -/

/-- A test that is built under some facts has, under more facts, the value of the test that is built
under these. -/
theorem value_ofTest_underFacts (within : facts.Within facts') (assignment : Assignment)
    (question : Test) (holds : Bool) :
    (ofTest facts question holds).value (assignment.underFacts facts') =
      (ofTest facts' question holds).value assignment := by
  -- what the facts leave open is asked under the others
  have asked : ∀ {question : Test} {holds}, question.Free facts →
      (ofTest facts question holds).value (assignment.underFacts facts') =
        (ofTest facts' question holds).value assignment := by
    intro question holds free
    rw [ofTest_of_free free, value_single, value_ofTest facts' assignment question holds]
    rfl
  have has : ∀ key holds, (ofTest facts (.has key) holds).value (assignment.underFacts facts') =
      (ofTest facts' (.has key) holds).value assignment := by
    intro key holds
    cases found : facts.constant? key with
    | none => exact asked found
    | some constant => simp only [ofTest, found, within key constant found, value_ofBool]
  cases question with
  | has key => exact has key holds
  | equals key value =>
    cases found : facts.constant? key with
    | none =>
      cases value with
      | boolean value => exact has key (value == holds)
      | number value => exact asked ⟨found, rfl⟩
      | string value => exact asked ⟨found, rfl⟩
    | some constant =>
      cases value with
      | boolean value => exact has key (value == holds)
      | number value => simp only [ofTest, found, within key constant found, value_ofBool]
      | string value => simp only [ofTest, found, within key constant found, value_ofBool]
  | matching key pattern => exact asked trivial
  | member key container => exact asked trivial

/-- **Folding again changes nothing.** -/
theorem Assignment.underFacts_underFacts (within : facts.Within facts') (assignment : Assignment) :
    (assignment.underFacts facts').underFacts facts = assignment.underFacts facts' := by
  refine Assignment.ext (funext fun question => ?_)
    (funext fun key => funext fun comparison => funext fun bound => ?_)
  · exact value_ofTest_underFacts within assignment question true
  · exact congrArg (assignment.compare key comparison) (plainBound_plainBound bound)

/-- What the facts leave of the dual is dual to what they leave of an assignment. -/
theorem Assignment.dual_underFacts (facts : Facts) (assignment : Assignment) :
    (assignment.underFacts facts).dual = assignment.dual.underFacts facts := by
  refine Assignment.ext (funext fun question => ?_) rfl
  show (ofTest facts question true).value assignment =
    (ofTest facts question true).value assignment.dual
  rcases ofTest_cases facts question true with ⟨constant, same⟩ | ⟨question', polarity, same, -⟩
  · rw [same, value_ofBool, value_ofBool]
  · rw [same, value_single, value_single]
    rfl

/-! ### Formulas -/

/-- Joins of what formulas build have one value if these have. -/
theorem value_join_underFacts (join : Join) {parts : List Formula}
    {operands operands' : List Expression}
    (build : Formula.buildAll facts limit text parts = .ok operands)
    (build' : Formula.buildAll facts' limit' text parts = .ok operands')
    (joins : join.expressionWithin limit operands = .ok result)
    (joins' : join.expressionWithin limit' operands' = .ok result')
    (values : operands'.map (·.value assignment) =
      operands.map (·.value (assignment.underFacts facts'))) :
    result'.value assignment = result.value (assignment.underFacts facts') := by
  have consistent := fun operand among =>
    (kept_formed.formulas trivial parts build operand among).consistent
  have consistent' := fun operand among =>
    (kept_formed.formulas trivial parts build' operand among).consistent
  rw [Join.value_expressionWithin assignment consistent' joins', values,
    Join.value_expressionWithin _ consistent joins]

mutual

/-- **Building a formula under the facts and folding what it builds without them come to one
value.** -/
theorem value_build_underFacts (within : facts.Within facts') : ∀ (formula : Formula)
    {early late : Expression}, formula.build facts limit text = .ok early →
      formula.build facts' limit' text = .ok late → ∀ assignment,
        late.value assignment = early.value (assignment.underFacts facts')
  | .test written, early, late, run, run', assignment => by
    rw [Formula.build] at run run'
    rcases exists_literal_of_build run with ⟨holds, builds⟩ | ⟨literal, -, builds⟩
    · cases run.symm.trans (builds facts)
      cases run'.symm.trans (builds facts')
      rw [value_ofBool, value_ofBool]
    · cases run.symm.trans (builds facts)
      cases run'.symm.trans (builds facts')
      rw [value_ofLiteral, value_ofLiteral, Assignment.underFacts_underFacts within]
  | .negation body, early, late, run, run', assignment => by
    rw [Formula.build] at run run'
    obtain ⟨first, build, rest⟩ := bind_eq_ok.mp run
    obtain ⟨first', build', rest'⟩ := bind_eq_ok.mp run'
    rw [value_of_negateWithin _ (kept_free.formula rfl body build) (withinClauses_eq_ok rest),
      value_of_negateWithin _ (kept_free.formula rfl body build') (withinClauses_eq_ok rest'),
      value_build_underFacts within body build build', Assignment.dual_underFacts]
  | .all parts, early, late, run, run', assignment => by
    rw [Formula.build] at run run'
    obtain ⟨operands, build, rest⟩ := bind_eq_ok.mp run
    obtain ⟨operands', build', rest'⟩ := bind_eq_ok.mp run'
    exact value_join_underFacts .all build build' (withinClauses_eq_ok rest)
      (withinClauses_eq_ok rest') (values_buildAll_underFacts within parts build build' assignment)
  | .any parts, early, late, run, run', assignment => by
    rw [Formula.build] at run run'
    obtain ⟨operands, build, rest⟩ := bind_eq_ok.mp run
    obtain ⟨operands', build', rest'⟩ := bind_eq_ok.mp run'
    exact value_join_underFacts .any build build' (withinClauses_eq_ok rest)
      (withinClauses_eq_ok rest') (values_buildAll_underFacts within parts build build' assignment)

theorem values_buildAll_underFacts (within : facts.Within facts') : ∀ (parts : List Formula)
    {early late : List Expression}, Formula.buildAll facts limit text parts = .ok early →
      Formula.buildAll facts' limit' text parts = .ok late → ∀ assignment,
        late.map (·.value assignment) = early.map (·.value (assignment.underFacts facts'))
  | [], early, late, run, run', assignment => by
    rw [Formula.buildAll] at run run'
    cases run
    cases run'
    rfl
  | part :: parts, early, late, run, run', assignment => by
    rw [Formula.buildAll] at run run'
    obtain ⟨first, build, rest⟩ := bind_eq_ok.mp run
    obtain ⟨others, builds, same⟩ := bind_eq_ok.mp rest
    obtain ⟨first', build', rest'⟩ := bind_eq_ok.mp run'
    obtain ⟨others', builds', same'⟩ := bind_eq_ok.mp rest'
    cases same
    cases same'
    rw [List.map_cons, List.map_cons, value_build_underFacts within part build build',
      values_buildAll_underFacts within parts builds builds']

end

/-! ### Texts -/

/-- **Folding late is folding early.** Where a text is parsed both before the platform is known and
after, the expression from before, folded afterwards, equals the one from after. The joins that
folding takes all return, and folding the result once more leaves it equal. -/
theorem substituteConstants_parse {limits limits' : Limits} {source : String}
    {early late : Expression} (parsed : parse Facts.unresolved limits source = .ok early)
    (parsed' : parse (some platform) limits' source = .ok late) :
    (early.RenamingEnds ∧ (early.substituteConstants (some platform) == late) = true) ∧
      (early.substituteConstants (some platform)).RenamingEnds ∧
      ((early.substituteConstants (some platform)).substituteConstants (some platform) ==
        early.substituteConstants (some platform)) = true := by
  have nanFree : early.NaNFree := kept_nanFree.parse trivial parsed
  have nanFree' : late.NaNFree := kept_nanFree.parse trivial parsed'
  have folded : (early.substituteConstants (some platform)).NaNFree :=
    kept_nanFree.rename trivial id nanFree
  have formed : (early.substituteConstants (some platform)).Formed :=
    kept_formed.rename trivial id (kept_formed.parse trivial parsed)
  obtain ⟨formula, read, build⟩ := parse_eq_ok parsed
  obtain ⟨formula', read', build'⟩ := parse_eq_ok parsed'
  cases read.symm.trans read'
  refine ⟨⟨renamingEnds nanFree, ?_⟩, renamingEnds folded, ?_⟩
  · refine beq_of_value_eq formed (kept_formed.parse trivial parsed') folded nanFree'
      fun assignment => ?_
    rw [value_substituteConstants _ assignment nanFree,
      value_build_underFacts (Facts.unresolved_within _) formula build build' assignment]
  · refine beq_of_value_eq (kept_formed.rename trivial id formed) formed
      (kept_nanFree.rename trivial id folded) folded fun assignment => ?_
    rw [value_substituteConstants _ assignment folded, value_substituteConstants _ _ nanFree,
      value_substituteConstants _ assignment nanFree,
      Assignment.underFacts_underFacts (Facts.within_refl _)]

end Engine

/-- Parsed before the platform is known, `isMac && editorFocus` is folded to `editorFocus` on a Mac,
and parsed there it is `editorFocus` at once. -/
theorem substituteConstants_parse_mac :
    parse Facts.unresolved {} "isMac && editorFocus" =
        .ok (ofClause [.test (.has "isMac") true, .test (.has "editorFocus") true]) ∧
      parse (some .mac) {} "isMac && editorFocus" = .ok (single (.test (.has "editorFocus") true)) ∧
      ((ofClause [.test (.has "isMac") true, .test (.has "editorFocus") true]).substituteConstants
        (some .mac) == single (.test (.has "editorFocus") true)) = true := by
  have read : Grammar.read "isMac && editorFocus".toList = .ok (.any [.all [
      .test (.has "isMac".toList), .test (.has "editorFocus".toList)]]) := by rfl
  have parses : ∀ {facts operands} (literal : Literal) (others : Clause),
      Formula.buildAll facts 256 "isMac && editorFocus".toList [.test (.has "isMac".toList),
        .test (.has "editorFocus".toList)] = .ok operands →
      conjWithin 256 operands = .ok (ofClause (literal :: others)) →
      parse facts {} "isMac && editorFocus" = .ok (ofClause (literal :: others)) := by
    intro facts operands literal others tests joins
    rw [parse_eq_build (by decide) (by decide) ⟨'i', by decide, by decide⟩ read]
    exact build_join .any (buildAll_join .all tests joins) (ofClausesWithin_singleton 256 _)
  have builds : ∀ facts, Formula.buildAll facts 256 "isMac && editorFocus".toList
      [.test (.has "isMac".toList), .test (.has "editorFocus".toList)] =
        .ok [has facts "isMac", has facts "editorFocus"] := by
    intro facts
    rw [Formula.buildAll, Formula.buildAll, Formula.buildAll, Formula.build, Formula.build]
    rfl
  have consistent : Clause.Consistent [.test (.has "isMac") true, .test (.has "editorFocus") true] :=
    List.pairwise_pair.mpr ⟨rfl, rfl⟩
  have early := parses (.test (.has "isMac") true) [.test (.has "editorFocus") true]
    (builds Facts.unresolved) (conjWithin_map_single consistent 256)
  have late := parses (.test (.has "editorFocus") true) [] (builds (some .mac))
    (ofClausesWithin_singleton 256 _)
  exact ⟨early, late, (substituteConstants_parse early late).1.2⟩

end WhenClause

/-
**Folding platform facts.**

Once the platform is known, `substituteConstants` builds every literal anew, and a test of a platform
key becomes a constant. A context that tells the same facts has Booleans under these keys, and
evaluation reads them loosely. Constant and answer agree but for one kind of test: an equality of a
platform key with the number that evaluation takes its fact for, one for `true` and zero for
`false`. The constant compares texts, and no number's text is that of a Boolean.

* `value_rename`: a renamed expression has the value of its literals built anew, in their places;
* `evaluate_ofLiteral`: what becomes of the answer to one literal;
* `evaluate_substituteConstants`: without tests of that kind folding preserves the value.
-/

import WhenClause.Proofs.Negation
import WhenClause.Proofs.Shortest
import WhenClause.Regex.Engine

namespace WhenClause

open Expression

/-! ### Numbers and Booleans as texts -/

/-- The number that loose equality takes a Boolean for. -/
def truthNumber (value : Bool) : Double := if value then Double.one else Double.zero

/-- No number is written like a Boolean. -/
theorem Double.text_ne_booleanText (number : Double) (value : Bool) :
    number.text ≠ Value.booleanText value := by
  intro same
  have characters : number.characters = (Value.booleanText value).toList := by
    rw [← same, Double.text, String.toList_ofList]
  by_cases finite : number.isFinite = true
  · obtain ⟨c, rest, begins, first⟩ :=
      Grammar.exists_cons_of_takeNumber (Double.numberText_characters finite).whole
    rw [characters] at begins
    obtain rfl | rfl : c = 't' ∨ c = 'f' := by
      cases value with
      | false => exact .inr (List.cons.inj begins).1.symm
      | true => exact .inl (List.cons.inj begins).1.symm
    all_goals exact absurd first (by decide)
  · have finite := Bool.eq_false_iff.mpr finite
    unfold Double.characters at characters
    split at characters
    · cases value <;> exact absurd characters (by decide)
    · rename_i noNaN
      have infinite : number.isInfinite = true := by
        simp only [Double.isFinite, decide_eq_false_iff_not] at finite
        simp only [Double.isNaN, decide_eq_true_eq] at noNaN
        simp only [Double.isInfinite, beq_iff_eq]
        omega
      rw [if_pos infinite, Double.signText] at characters
      cases value <;> split at characters <;> exact absurd characters (by decide)

theorem Double.isFinite_of_truthNumber_beq {fact : Bool} {number : Double}
    (same : (truthNumber fact == number) = true) : number.isFinite = true := by
  rcases Double.eq_or_zero_of_beq same with rfl | ⟨-, zero⟩
  · cases fact <;> decide
  · exact Double.isFinite_of_zero zero

/-- **A Boolean loosely equals the numbers that have its value.** -/
theorem looselyEqual_boolean_number (fact : Bool) (number : Double) :
    looselyEqual (some (.boolean fact)) (.number number) = (truthNumber fact == number) := by
  have texts : (Value.booleanText fact == number.text) = false :=
    beq_false_of_ne (Double.text_ne_booleanText number fact).symm
  show numbersOrTexts (some (truthNumber fact)) (Value.number? (.number number))
    (Value.booleanText fact) number.text = _
  by_cases finite : number.isFinite = true
  · rw [Value.number?, if_pos finite]
    rfl
  · rw [Value.number?, if_neg finite]
    refine texts.trans (Bool.eq_false_iff.mpr fun same => ?_).symm
    exact finite (Double.isFinite_of_truthNumber_beq same)

section Engine

variable [PatternEngine]
variable {facts : Facts} {platform : Platform} {expression : Expression} {clause : Clause}
  {literal : Literal} {question : Test} {context : Context} {key : String} {fact : Bool}

/-! ### The value of a renaming -/

theorem value_renameClause (assignment : Assignment) (naming : String → String)
    (nanFree : clause.NaNFree) :
    (renameClause facts naming clause).value assignment =
      clause.all fun literal => (ofLiteral facts (literal.rename naming)).value assignment := by
  unfold renameClause
  split
  · simp
  · have parts : ∀ operand ∈ clause.map fun literal => ofLiteral facts (literal.rename naming),
        operand.NaNFree :=
      List.forall_mem_map.mpr fun literal member =>
        nanFree_ofLiteral facts ((literal.hasNaN_rename naming).trans (nanFree literal member))
    rw [value_conj assignment parts, List.all_map]
    rfl

/-- **A renamed expression has the value of its renamed literals in their places.** -/
theorem value_rename (assignment : Assignment) (naming : String → String)
    (nanFree : expression.NaNFree) :
    (expression.rename facts naming).value assignment = expression.clauses.any fun clause =>
      clause.all fun literal => (ofLiteral facts (literal.rename naming)).value assignment := by
  unfold Expression.rename
  split
  · rename_i none'
    rw [none']
    rfl
  · rename_i clause only
    have here : clause ∈ expression.clauses := by rw [only]; exact List.mem_cons_self
    rw [only, value_renameClause assignment naming (nanFree clause here)]
    simp
  · have formed : ∀ clause, (renameClause facts naming clause).Formed := fun clause =>
      kept_formed.renameClause fun literal _ => formed_ofLiteral facts _
    have consistent : ∀ operand ∈ expression.clauses.map (renameClause facts naming),
        ∀ clause ∈ operand.clauses, clause.Consistent :=
      List.forall_mem_map.mpr fun clause _ => (formed clause).consistent
    have parts : ∀ operand ∈ expression.clauses.map (renameClause facts naming),
        operand.NaNFree :=
      List.forall_mem_map.mpr fun clause inside => kept_nanFree.renameClause
        (kept_nanFree.renamed facts trivial naming expression nanFree clause inside)
    rw [value_disj assignment consistent parts, List.any_map]
    exact any_congr_of_mem fun clause inside =>
      value_renameClause assignment naming (nanFree clause inside)

theorem Literal.rename_id (literal : Literal) : literal.rename id = literal := by
  cases literal with
  | test question holds => cases question <;> rfl
  | ordered key comparison bound => rfl

/-! ### Facts in contexts -/

/-- Under the platform keys the context has the facts of a platform. -/
def Context.Tells (context : Context) (platform : Platform) : Prop :=
  ∀ key fact, platform.fact? key = some fact → context key = some (.boolean fact)

/-- Whether a test compares a platform key with the number of its fact. -/
def Test.asksTruthNumber (platform : Platform) : Test → Bool
  | .equals key (.number number) => (platform.fact? key).any (truthNumber · == number)
  | _ => false

/-- Whether a literal compares a platform key with the number of its fact. -/
def Literal.asksTruthNumber (platform : Platform) : Literal → Bool
  | .test question _ => question.asksTruthNumber platform
  | .ordered _ _ _ => false

/-! ### Folding literals -/

theorem evaluate_ofBool (value : Bool) (context : Context) :
    (ofBool value).evaluate context = value := by
  cases value <;> rfl

theorem evaluate_single (literal : Literal) (context : Context) :
    (single literal).evaluate context = literal.evaluate context := by
  simp [single, ofClause, Expression.evaluate, Clause.evaluate]

/-- Built under the facts, an equality is answered by them. -/
theorem evaluate_ofTest_equals {value : Value} (found : platform.fact? key = some fact)
    (plain : value.isBoolean = false) (holds : Bool) :
    (ofTest (some platform) (.equals key value) holds).evaluate context =
      ((value.text == Value.booleanText fact) == holds) := by
  have found : Facts.constant? (some platform) key = some fact := found
  cases value with
  | boolean value => cases plain
  | number number => simp only [ofTest, found, evaluate_ofBool]
  | string text => simp only [ofTest, found, evaluate_ofBool]

/-- **A test built anew under the facts has the same answer, unless it compares a platform key with
the number of its fact: then it has the opposite one.** -/
theorem evaluate_ofTest (free : question.Free Facts.unresolved) (tells : context.Tells platform)
    (holds : Bool) :
    (ofTest (some platform) question holds).evaluate context =
      ((question.evaluate context == holds) != question.asksTruthNumber platform) := by
  have unfixed : question.Free (some platform) → question.asksTruthNumber platform = false →
      (ofTest (some platform) question holds).evaluate context =
        ((question.evaluate context == holds) != question.asksTruthNumber platform) := by
    intro free none'
    rw [ofTest_of_free free, evaluate_single, none', Bool.bne_false]
    rfl
  cases question with
  | matching key pattern => exact unfixed trivial rfl
  | member key container => exact unfixed trivial rfl
  | has key =>
    cases found : platform.fact? key with
    | none => exact unfixed found rfl
    | some fact =>
      have constant : Facts.constant? (some platform) key = some fact := found
      simp only [ofTest, constant, evaluate_ofBool, Test.evaluate, tells key fact found, isTruthy,
        Test.asksTruthNumber, Bool.bne_false]
  | equals key value =>
    obtain ⟨-, plain⟩ := free
    cases found : platform.fact? key with
    | none =>
      refine unfixed ⟨found, plain⟩ ?_
      cases value <;> simp [Test.asksTruthNumber, found]
    | some fact =>
      rw [evaluate_ofTest_equals found plain, Test.evaluate, tells key fact found]
      cases value with
      | boolean value => cases plain
      | string text =>
        have noNumber : (Test.equals key (.string text)).asksTruthNumber platform = false := rfl
        rw [noNumber, Bool.bne_false]
        exact congrArg (· == holds) (Bool.beq_comm)
      | number number =>
        have texts : (number.text == Value.booleanText fact) = false :=
          beq_false_of_ne (Double.text_ne_booleanText number fact)
        rw [looselyEqual_boolean_number, Value.text, texts, Test.asksTruthNumber, found]
        show (false == holds) = (((truthNumber fact == number) == holds) !=
          (truthNumber fact == number))
        cases (truthNumber fact == number) <;> cases holds <;> rfl

/-- **What becomes of the answer to a literal that is built anew under the facts.** -/
theorem evaluate_ofLiteral (free : literal.Free Facts.unresolved) (tells : context.Tells platform) :
    (ofLiteral (some platform) literal).evaluate context =
      (literal.evaluate context != literal.asksTruthNumber platform) := by
  cases literal with
  | test question holds => exact evaluate_ofTest free tells holds
  | ordered key comparison bound =>
    rw [ofLiteral, plainBound_of_free free, evaluate_single, Literal.asksTruthNumber,
      Bool.bne_false]

/-! ### Folding expressions -/

/-- Folding turns the answers to tests of platform keys for the numbers of their facts around, and
no other answer. -/
theorem evaluate_rename_id (free : expression.Free Facts.unresolved) (nanFree : expression.NaNFree)
    (tells : context.Tells platform) :
    (expression.rename (some platform) id).evaluate context = expression.clauses.any fun clause =>
      clause.all fun literal =>
        literal.evaluate context != literal.asksTruthNumber platform := by
  rw [← Expression.value_assignment, value_rename context.assignment id nanFree]
  refine any_all_congr_of_mem fun clause inside literal member => ?_
  rw [Literal.rename_id, Expression.value_assignment,
    evaluate_ofLiteral (free clause inside literal member) tells]

/-- **Folding platform facts preserves meaning.** An expression built while no platform was known,
without NaN, is folded in joins that all return. In a context that tells the facts of the platform
the result has the value that the expression has, if no literal compares a platform key with the
number of its fact. -/
theorem evaluate_substituteConstants (built : Built (· = Facts.unresolved) expression)
    (nanFree : expression.NaNFree) :
    expression.RenamingEnds ∧ ∀ platform (context : Context), context.Tells platform →
      (∀ clause ∈ expression.clauses, ∀ literal ∈ clause,
        literal.asksTruthNumber platform = false) →
      (expression.substituteConstants (some platform)).evaluate context =
        expression.evaluate context := by
  refine ⟨renamingEnds nanFree, fun platform context tells plain => ?_⟩
  rw [substituteConstants, evaluate_rename_id built.free nanFree tells]
  refine any_congr_of_mem fun clause inside => all_congr_of_mem fun literal member => ?_
  rw [plain clause inside literal member, Bool.bne_false]

end Engine

/-- The context of a Mac that tells the platform and nothing else. -/
def macContext : Context := fun key => (Platform.mac.fact? key).map .boolean

theorem macContext_tells : macContext.Tells .mac := fun key fact found => by
  rw [macContext, found, Option.map_some]

/-- On a Mac `isMac && isLinux != 'true'` holds, and so does what it is folded to. -/
theorem evaluate_substituteConstants_mac :
    ((conj [has Facts.unresolved "isMac",
        differs Facts.unresolved "isLinux" (.string "true")]).substituteConstants
          (some .mac)).evaluate macContext =
      (conj [has Facts.unresolved "isMac",
        differs Facts.unresolved "isLinux" (.string "true")]).evaluate macContext := by
  have built : ∀ operand ∈ [has Facts.unresolved "isMac",
      differs Facts.unresolved "isLinux" (.string "true")],
      Built (· = Facts.unresolved) operand :=
    List.forall_mem_cons.mpr ⟨@Built.ofTest _ (· = Facts.unresolved) _ rfl _ _,
      List.forall_mem_singleton.mpr (@Built.ofTest _ (· = Facts.unresolved) _ rfl _ _)⟩
  have nanFree : ∀ operand ∈ [has Facts.unresolved "isMac",
      differs Facts.unresolved "isLinux" (.string "true")], operand.NaNFree := by decide
  refine (evaluate_substituteConstants (Built.conj built) (kept_nanFree.conj nanFree)).2 .mac
    macContext macContext_tells ?_
  have plain : ∀ literal ∈ literalsOf [has Facts.unresolved "isMac",
      differs Facts.unresolved "isLinux" (.string "true")],
      literal.asksTruthNumber .mac = false := by decide
  exact fun clause inside literal member => plain literal
    (subset_conjWithin (conjWithin_eq_conj nanFree (Nat.le_refl _)) clause inside member)

/-- On a Mac `isMac == 1` holds, and is folded to what never holds. -/
theorem substituteConstants_truth_number :
    Built (· = Facts.unresolved) (equals Facts.unresolved "isMac" (.number Double.one)) ∧
      (equals Facts.unresolved "isMac" (.number Double.one)).NaNFree ∧
      macContext.Tells .mac ∧
      (equals Facts.unresolved "isMac" (.number Double.one)).evaluate macContext = true ∧
      ((equals Facts.unresolved "isMac" (.number Double.one)).substituteConstants
        (some .mac)).evaluate macContext = false := by
  have built : Built (· = Facts.unresolved)
      (equals Facts.unresolved "isMac" (.number Double.one)) :=
    @Built.ofTest _ (· = Facts.unresolved) _ rfl _ _
  have nanFree : (equals Facts.unresolved "isMac" (.number Double.one)).NaNFree := by decide
  refine ⟨built, nanFree, macContext_tells, by decide, ?_⟩
  rw [substituteConstants, evaluate_rename_id built.free nanFree macContext_tells]
  decide

end WhenClause

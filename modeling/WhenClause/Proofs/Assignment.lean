/-
**Truth values under assignments.**

An `Assignment` answers every test and says of every comparison whether it holds, as if they had
nothing to do with each other. A literal asks a test with either polarity; a comparison it asks only
as it stands. Under an assignment literals, clauses and expressions have a `value`.

* `Literal.value_congr`, `Literal.value_of_isComplement`: the same literals have one value, and
  complements have opposite ones.
* `Context.assignment`: the answers of a context are an assignment, so whatever holds of values
  holds of evaluation (`Expression.value_assignment`).
-/

import WhenClause.Evaluation
import WhenClause.Proofs.Sameness

namespace WhenClause

/-! ### Values that are the same -/

/-- Zero is written `0`, whatever its sign. -/
theorem Double.text_of_zero {x : Double} (zero : x.magnitude.val = 0) : x.text = "0" := by
  have notNaN : x.isNaN = false := by simp [isNaN, zero]
  have notInfinite : x.isInfinite = false := by simp [isInfinite, zero, infinityMagnitude]
  have isZero : x.isZero = true := by simp [Double.isZero, zero]
  simp [text, characters, notNaN, notInfinite, isZero]

theorem Double.isFinite_of_zero {x : Double} (zero : x.magnitude.val = 0) : x.isFinite = true := by
  simp [isFinite, zero, infinityMagnitude]

/-- Written zeros are finite numbers. -/
theorem Value.number?_of_zero {x : Double} (zero : x.magnitude.val = 0) :
    Value.number? (.number x) = some x :=
  if_pos (Double.isFinite_of_zero zero)

theorem numbersOrTexts_congr {x y : Double} (same : (x == y) = true) (left : Option Double)
    (leftText rightText : String) :
    numbersOrTexts left (some x) leftText rightText =
      numbersOrTexts left (some y) leftText rightText := by
  cases left with
  | none => rfl
  | some left => exact BEq.congr_right same

/-- Written values that are the same are loosely equal to the same things. -/
theorem looselyEqual_congr {written written' : Value} (same : (written == written') = true)
    (value : Option Json) : looselyEqual value written = looselyEqual value written' := by
  rcases (Value.beq_iff _ _).mp same with ⟨rfl, -⟩ | ⟨x, y, rfl, rfl, numbers⟩
  · rfl
  rcases Double.eq_or_zero_of_beq numbers with rfl | ⟨zero, zero'⟩
  · rfl
  cases value with
  | none => rfl
  | some value =>
    cases value <;>
      simp only [looselyEqual, Value.isNumber, Bool.or_true, if_true, Value.text,
        Value.number?_of_zero zero, Value.number?_of_zero zero', Double.text_of_zero zero,
        Double.text_of_zero zero', numbersOrTexts_congr numbers]

/-- Bounds that are the same compare alike. -/
theorem compares_congr {bound bound' : Value} (same : (bound == bound') = true)
    (value : Option Json) (comparison : Comparison) :
    compares value comparison bound = compares value comparison bound' := by
  rcases (Value.beq_iff _ _).mp same with ⟨rfl, -⟩ | ⟨x, y, rfl, rfl, numbers⟩
  · rfl
  rcases Double.eq_or_zero_of_beq numbers with rfl | ⟨zero, zero'⟩
  · rfl
  simp only [compares, Value.number?_of_zero zero, Value.number?_of_zero zero']
  cases value.bind Json.number? with
  | none => rfl
  | some left => exact comparison.holds_congr_right numbers left

/-! ### Assignments -/

variable [PatternEngine]

/-- Truth values of the atoms: tests, and comparisons of a key with a bound. What is the same has
the same truth value. -/
@[ext] structure Assignment where
  answer : Test → Bool
  compare : String → Comparison → Value → Bool
  answer_congr : ∀ {left right : Test}, (left == right) = true → answer left = answer right
  compare_congr : ∀ (key : String) (comparison : Comparison) {bound bound' : Value},
    (bound == bound') = true → compare key comparison bound = compare key comparison bound'

/-- The truth value of a literal. -/
def Literal.value (assignment : Assignment) : Literal → Bool
  | .test question holds => assignment.answer question == holds
  | .ordered key comparison bound => assignment.compare key comparison bound

/-- The truth value of a clause. -/
def Clause.value (assignment : Assignment) (clause : Clause) : Bool :=
  clause.all (·.value assignment)

/-- Whether one of several clauses is true. -/
def anyValue (assignment : Assignment) (clauses : List Clause) : Bool :=
  clauses.any (·.value assignment)

/-- The truth value of an expression. -/
def Expression.value (assignment : Assignment) (expression : Expression) : Bool :=
  anyValue assignment expression.clauses

section Values

variable (assignment : Assignment)

/-- The same literals have one value. -/
theorem Literal.value_congr {left right : Literal} (same : (left == right) = true) :
    left.value assignment = right.value assignment := by
  cases left <;> cases right <;>
    simp only [test_beq, ordered_beq, test_beq_ordered, ordered_beq_test, Bool.and_eq_true,
      Bool.false_eq_true, beq_iff_eq] at same
  · obtain ⟨questions, rfl⟩ := same
    simp only [Literal.value, assignment.answer_congr questions]
  · obtain ⟨⟨rfl, rfl⟩, bounds⟩ := same
    exact assignment.compare_congr _ _ bounds

/-- Complements have opposite values. -/
theorem Literal.value_of_isComplement {left right : Literal}
    (complement : left.isComplement right = true) :
    left.value assignment = !right.value assignment := by
  obtain ⟨question, question', holds, rfl, rfl, questions⟩ := (isComplement_iff _ _).mp complement
  simp only [Literal.value, assignment.answer_congr questions]
  cases assignment.answer question' <;> cases holds <;> rfl

@[simp] theorem Clause.value_nil : Clause.value assignment [] = true := rfl

@[simp] theorem Clause.value_cons (literal : Literal) (clause : Clause) :
    Clause.value assignment (literal :: clause) =
      (literal.value assignment && Clause.value assignment clause) := rfl

@[simp] theorem Clause.value_append (left right : Clause) :
    Clause.value assignment (left ++ right) =
      (Clause.value assignment left && Clause.value assignment right) := by
  simp [Clause.value]

theorem Clause.value_eq_true {clause : Clause} :
    clause.value assignment = true ↔ ∀ literal ∈ clause, literal.value assignment = true := by
  simp [Clause.value]

@[simp] theorem anyValue_nil : anyValue assignment [] = false := rfl

@[simp] theorem anyValue_cons (clause : Clause) (clauses : List Clause) :
    anyValue assignment (clause :: clauses) =
      (clause.value assignment || anyValue assignment clauses) := rfl

@[simp] theorem anyValue_append (left right : List Clause) :
    anyValue assignment (left ++ right) =
      (anyValue assignment left || anyValue assignment right) := by
  simp [anyValue]

theorem anyValue_eq_true {clauses : List Clause} :
    anyValue assignment clauses = true ↔ ∃ clause ∈ clauses, clause.value assignment = true := by
  simp [anyValue]

@[simp] theorem Expression.value_never : never.value assignment = false := rfl

@[simp] theorem Expression.value_always : always.value assignment = true := rfl

end Values

/-! ### Contexts -/

/-- A context answers tests that are the same alike. -/
theorem Test.evaluate_congr (context : Context) {left right : Test}
    (same : (left == right) = true) : left.evaluate context = right.evaluate context := by
  rcases (Test.beq_iff _ _).mp same with ⟨rfl, -⟩ | ⟨key, value, value', rfl, rfl, values⟩
  · rfl
  · exact looselyEqual_congr values (context key)

/-- The answers of a context. -/
def Context.assignment (context : Context) : Assignment where
  answer := Test.evaluate context
  compare key comparison bound := compares (context key) comparison bound
  answer_congr := Test.evaluate_congr context
  compare_congr key comparison _ _ same := compares_congr same (context key) comparison

theorem Clause.value_assignment (context : Context) (clause : Clause) :
    clause.value context.assignment = clause.evaluate context := by
  have literals : Literal.value context.assignment = Literal.evaluate context := by
    funext literal
    cases literal <;> rfl
  simp only [value, evaluate, literals]

/-- **Evaluation in a context is the value under its answers.** -/
theorem Expression.value_assignment (context : Context) (expression : Expression) :
    expression.value context.assignment = expression.evaluate context := by
  have clauses : Clause.value context.assignment = Clause.evaluate context :=
    funext (Clause.value_assignment context)
  simp only [value, anyValue, evaluate, clauses]

end WhenClause

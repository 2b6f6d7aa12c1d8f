/-
**When numbers, tests and literals are the same.**

`==` compares numbers by value, so it is coarser than identity on the two zeros and fails on NaN. It
is symmetric and transitive all the same, and the complement of a literal respects it:

* `Double.eq_or_zero_of_beq`: two numbers of one value are identical or both zero;
* `Literal.beq_self_iff`: a literal is the same as itself exactly if it holds no NaN;
* `Literal.isComplement_congr_left`: the same literals have the same complements;
* `Literal.beq_of_isComplement`: up to `==` a literal has one complement.
-/

import WhenClause.Literal

namespace WhenClause

/-! ### Numbers -/

namespace Double

variable {x y : Double}

theorem beq_iff (x y : Double) :
    (x == y) = true ↔ x.isNaN = false ∧ y.isNaN = false ∧ x.rank = y.rank := by
  show equal x y = true ↔ _
  simp [equal, and_assoc]

instance : PartialEquivBEq Double where
  symm same := by
    rw [beq_iff] at same ⊢
    exact ⟨same.2.1, same.1, same.2.2.symm⟩
  trans first second := by
    rw [beq_iff] at first second ⊢
    exact ⟨first.1, second.2.1, first.2.2.trans second.2.2⟩

/-- A number is equal to itself unless it is NaN. -/
theorem beq_self_iff (x : Double) : (x == x) = true ↔ x.isNaN = false := by
  simp [beq_iff]

/-- **Two numbers of one value are identical, or both zero.** -/
theorem eq_or_zero_of_beq (same : (x == y) = true) :
    x = y ∨ (x.magnitude.val = 0 ∧ y.magnitude.val = 0) := by
  obtain ⟨-, -, ranks⟩ := (beq_iff x y).mp same
  obtain ⟨negative, magnitude⟩ := x
  obtain ⟨negative', magnitude'⟩ := y
  simp only [rank] at ranks
  by_cases signs : negative = negative'
  · subst signs
    left
    have magnitudes : magnitude.val = magnitude'.val := by
      cases negative <;> simp at ranks <;> omega
    rw [Fin.ext magnitudes]
  · right
    cases negative <;> cases negative' <;> simp at signs ranks ⊢ <;> omega

theorem less_congr_right (same : (x == y) = true) (z : Double) : z.less x = z.less y := by
  obtain ⟨left, right, ranks⟩ := (beq_iff x y).mp same
  simp [less, left, right, ranks]

theorem less_congr_left (same : (x == y) = true) (z : Double) : x.less z = y.less z := by
  obtain ⟨left, right, ranks⟩ := (beq_iff x y).mp same
  simp [less, left, right, ranks]

theorem atMost_congr_right (same : (x == y) = true) (z : Double) : z.atMost x = z.atMost y := by
  obtain ⟨left, right, ranks⟩ := (beq_iff x y).mp same
  simp [atMost, left, right, ranks]

theorem atMost_congr_left (same : (x == y) = true) (z : Double) : x.atMost z = y.atMost z := by
  obtain ⟨left, right, ranks⟩ := (beq_iff x y).mp same
  simp [atMost, left, right, ranks]

end Double

/-- Numbers of one value compare alike. -/
theorem Comparison.holds_congr_right {x y : Double} (same : (x == y) = true)
    (comparison : Comparison) (z : Double) : comparison.holds z x = comparison.holds z y := by
  cases comparison with
  | greater => exact Double.less_congr_left same z
  | atLeast => exact Double.atMost_congr_left same z
  | less => exact Double.less_congr_right same z
  | atMost => exact Double.atMost_congr_right same z

/-! ### Values -/

namespace Value

/-- Whether a value is the number NaN. -/
def isNaN : Value → Bool
  | .number value => value.isNaN
  | _ => false

/-- **Values that are the same are identical, or numbers of one value.** -/
theorem beq_iff (left right : Value) :
    (left == right) = true ↔
      (left = right ∧ left.isNaN = false) ∨
        ∃ x y, left = .number x ∧ right = .number y ∧ (x == y) = true := by
  show equal left right = true ↔ _
  cases left with
  | number value =>
    cases right with
    | number value' =>
      refine ⟨fun same => Or.inr ⟨value, value', rfl, rfl, same⟩, ?_⟩
      rintro (⟨⟨⟩, notNaN⟩ | ⟨x, y, ⟨⟩, ⟨⟩, same⟩)
      · exact (Double.beq_self_iff value).mpr notNaN
      · exact same
    | _ => simp [equal]
  | _ => cases right <;> simp [equal, isNaN]

instance : PartialEquivBEq Value where
  symm {left right} same := by
    rw [beq_iff] at same ⊢
    rcases same with ⟨rfl, notNaN⟩ | ⟨x, y, rfl, rfl, numbers⟩
    · exact Or.inl ⟨rfl, notNaN⟩
    · exact Or.inr ⟨y, x, rfl, rfl, BEq.symm numbers⟩
  trans {left middle right} first second := by
    rw [beq_iff] at first second ⊢
    rcases first with ⟨rfl, -⟩ | ⟨x, y, rfl, rfl, numbers⟩
    · exact second
    · rcases second with ⟨rfl, -⟩ | ⟨y', z, ⟨⟩, rfl, numbers'⟩
      · exact Or.inr ⟨x, y, rfl, rfl, numbers⟩
      · exact Or.inr ⟨x, z, rfl, rfl, BEq.trans numbers numbers'⟩

theorem beq_self_iff (value : Value) : (value == value) = true ↔ value.isNaN = false := by
  rw [beq_iff]
  refine ⟨?_, fun notNaN => Or.inl ⟨rfl, notNaN⟩⟩
  rintro (⟨-, notNaN⟩ | ⟨x, y, rfl, ⟨⟩, numbers⟩)
  · exact notNaN
  · exact (Double.beq_self_iff x).mp numbers

end Value

/-! ### Tests -/

variable [PatternEngine]

namespace Test

/-- Whether a test asks for NaN. -/
def hasNaN : Test → Bool
  | .equals _ value => value.isNaN
  | _ => false

/-- **Tests that are the same are identical, or ask one key for values that are the same.** -/
theorem beq_iff (left right : Test) :
    (left == right) = true ↔
      (left = right ∧ left.hasNaN = false) ∨
        ∃ key value value', left = .equals key value ∧ right = .equals key value' ∧
          (value == value') = true := by
  show equal left right = true ↔ _
  cases left with
  | equals key value =>
    cases right with
    | equals key' value' =>
      simp only [equal, Bool.and_eq_true, beq_iff_eq]
      constructor
      · rintro ⟨rfl, same⟩
        exact Or.inr ⟨key, value, value', rfl, rfl, same⟩
      · rintro (⟨⟨⟩, notNaN⟩ | ⟨_, _, _, ⟨⟩, ⟨⟩, same⟩)
        · exact ⟨rfl, (Value.beq_self_iff value).mpr notNaN⟩
        · exact ⟨rfl, same⟩
    | _ => simp [equal]
  | _ => cases right <;> simp [equal, hasNaN]

instance : PartialEquivBEq Test where
  symm {left right} same := by
    rw [beq_iff] at same ⊢
    rcases same with ⟨rfl, notNaN⟩ | ⟨key, value, value', rfl, rfl, values⟩
    · exact Or.inl ⟨rfl, notNaN⟩
    · exact Or.inr ⟨key, value', value, rfl, rfl, BEq.symm values⟩
  trans {left middle right} first second := by
    rw [beq_iff] at first second ⊢
    rcases first with ⟨rfl, -⟩ | ⟨key, value, value', rfl, rfl, values⟩
    · exact second
    · rcases second with ⟨rfl, -⟩ | ⟨_, _, value'', ⟨⟩, rfl, values'⟩
      · exact Or.inr ⟨key, value, value', rfl, rfl, values⟩
      · exact Or.inr ⟨key, value, value'', rfl, rfl, BEq.trans values values'⟩

theorem beq_self_iff (question : Test) :
    (question == question) = true ↔ question.hasNaN = false := by
  rw [beq_iff]
  refine ⟨?_, fun notNaN => Or.inl ⟨rfl, notNaN⟩⟩
  rintro (⟨-, notNaN⟩ | ⟨key, value, value', rfl, ⟨⟩, values⟩)
  · exact notNaN
  · exact (Value.beq_self_iff value).mp values

end Test

/-! ### Literals -/

namespace Literal

/-- Whether a literal names NaN. -/
def hasNaN : Literal → Bool
  | .test question _ => question.hasNaN
  | .ordered _ _ bound => bound.isNaN

@[simp] theorem test_beq (left right : Test) (holds holds' : Bool) :
    (test left holds == test right holds') = (left == right && holds == holds') := rfl

@[simp] theorem ordered_beq (left right : String) (comparison comparison' : Comparison)
    (bound bound' : Value) :
    (ordered left comparison bound == ordered right comparison' bound') =
      (left == right && comparison == comparison' && bound == bound') := rfl

@[simp] theorem test_beq_ordered (question : Test) (holds : Bool) (key : String)
    (comparison : Comparison) (bound : Value) :
    (test question holds == ordered key comparison bound) = false := rfl

@[simp] theorem ordered_beq_test (question : Test) (holds : Bool) (key : String)
    (comparison : Comparison) (bound : Value) :
    (ordered key comparison bound == test question holds) = false := rfl

instance : PartialEquivBEq Literal where
  symm {left right} same := by
    cases left <;> cases right <;> simp_all [BEq.comm]
  trans {left middle right} first second := by
    cases left <;> cases middle <;> cases right <;>
      simp only [test_beq, ordered_beq, test_beq_ordered, ordered_beq_test, Bool.and_eq_true,
        Bool.false_eq_true, beq_iff_eq] at first second ⊢
    · exact ⟨BEq.trans first.1 second.1, first.2.trans second.2⟩
    · exact ⟨⟨first.1.1.trans second.1.1, first.1.2.trans second.1.2⟩, BEq.trans first.2 second.2⟩

/-- **A literal is the same as itself unless it names NaN.** -/
theorem beq_self_iff (literal : Literal) :
    (literal == literal) = true ↔ literal.hasNaN = false := by
  cases literal with
  | test question holds => simp [hasNaN, Test.beq_self_iff]
  | ordered key comparison bound => simp [hasNaN, Value.beq_self_iff]

/-- What is the same as some literal does not name NaN. -/
theorem hasNaN_of_beq_left {left right : Literal} (same : (left == right) = true) :
    left.hasNaN = false :=
  (beq_self_iff left).mp (BEq.trans same (BEq.symm same))

/-! ### Complements -/

/-- Complements ask the same test, with opposite polarity. -/
theorem isComplement_iff (left right : Literal) :
    left.isComplement right = true ↔
      ∃ question question' holds, left = .test question holds ∧ right = .test question' (!holds) ∧
        (question == question') = true := by
  cases left with
  | test question holds =>
    cases right with
    | test question' holds' => cases holds <;> cases holds' <;> simp [isComplement]
    | ordered _ _ _ => simp [isComplement]
  | ordered _ _ _ => simp [isComplement]

/-- **The complements of a literal are what is the same as its opposite.** -/
theorem isComplement_test (question : Test) (holds : Bool) (literal : Literal) :
    (test question holds).isComplement literal = (test question (!holds) == literal) := by
  cases literal with
  | test question' holds' => cases holds <;> cases holds' <;> simp [isComplement]
  | ordered _ _ _ => rfl

theorem isComplement_comm (left right : Literal) :
    left.isComplement right = right.isComplement left := by
  cases left <;> cases right <;> simp [isComplement, BEq.comm, bne_comm]

/-- The same literals have the same complements. -/
theorem isComplement_congr_left {left left' : Literal} (same : (left == left') = true)
    (right : Literal) : left.isComplement right = left'.isComplement right := by
  cases left <;> cases left' <;> simp at same
  · obtain ⟨questions, rfl⟩ := same
    rw [isComplement_test, isComplement_test]
    exact BEq.congr_left (by simp [questions])
  · rfl

theorem isComplement_congr_right {right right' : Literal} (same : (right == right') = true)
    (left : Literal) : left.isComplement right = left.isComplement right' := by
  rw [isComplement_comm, isComplement_congr_left same, isComplement_comm]

/-- **Up to `==` a literal has one complement.** -/
theorem beq_of_isComplement {left left' right : Literal} (first : left.isComplement right = true)
    (second : left'.isComplement right = true) : (left == left') = true := by
  rw [isComplement_comm] at first second
  cases right with
  | test question holds =>
    rw [isComplement_test] at first second
    exact BEq.trans (BEq.symm first) second
  | ordered _ _ _ => cases first

end Literal

end WhenClause

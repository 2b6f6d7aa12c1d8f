/-
**Membership and equality.**

An item is looked up in an array by `itemsEqual`, which compares two context values. An equality
compares a context value with one written in an expression, by `looselyEqual`. The two rounds of
coercions differ in what they know of an element: in the array an integer has all its digits, and
written in an expression it is rounded to binary64. The digits only count where the item has no
number, and an item without a number has neither text.

* `itemsEqual_eq_looselyEqual`: an item equals an element as it equals the element written down;
* `evaluate_isIn`: an item is in an array if and only if it equals one of the elements.
-/

import WhenClause.Proofs.Folding
import WhenClause.Proofs.NumberReading
import WhenClause.Regex.Engine

namespace WhenClause

open Expression

variable {item : Option Json} {element : Json} {number : JsonNumber} {written : Value}

/-! ### Texts and numbers -/

/-- The text of a number in a context has a number. -/
theorem JsonNumber.Representable.parses (representable : number.Representable) :
    (parseNumber number.text).isSome = true := by
  cases number with
  | integer value => exact Option.isSome_of_eq_some (parseNumber_toString representable.natAbs_le)
  | double value => exact Option.isSome_of_eq_some (parseNumber_text representable)

/-- A value that is a text or a number. -/
def Json.TextOrNumber : Json → Prop
  | .string _ => True
  | .number number => number.Representable
  | _ => False

/-- A text or a number as an expression writes it. -/
def Json.written? : Json → Option Value
  | .string text => some (.string text)
  | .number number => some (.number number.toDouble)
  | _ => none

/-! ### Two coercions -/

/-- Where no number is on the left, a text without a number stands there: it is none of the texts
that have one. -/
theorem numbersOrTexts_eq {left : Option Double} {right : Double} {text first second : String}
    (unread : left = none → parseNumber text = none)
    (firstParses : (parseNumber first).isSome = true)
    (secondParses : (parseNumber second).isSome = true) :
    numbersOrTexts left (some right) text first =
      numbersOrTexts left (some right) text second := by
  cases left with
  | some left => rfl
  | none =>
    have differs : ∀ other, (parseNumber other).isSome = true → (text == other) = false := by
      intro other parses
      refine beq_false_of_ne fun same => ?_
      rw [← same, unread rfl] at parses
      cases parses
    exact (differs first firstParses).trans (differs second secondParses).symm

/-- A plain value is compared with a number of an array by numbers, or by texts. -/
theorem itemsEqual_some_number {value : Json} (plain : value.isContainer = false)
    (some' : value ≠ .null) (number : JsonNumber) :
    itemsEqual (some value) (.number number) =
      numbersOrTexts value.looseNumber? (some number.toDouble) value.looseText number.text := by
  have unfolded : itemsEqual (some value) (.number number) =
      if value.isContainer || (Json.number number).isContainer then false
      else if value.isNumber || (Json.number number).isNumber then
        numbersOrTexts value.looseNumber? (some number.toDouble) value.looseText number.text
      else value.looseText == number.text := by
    cases value with
    | null => exact absurd rfl some'
    | _ => rfl
  have isNumber : (Json.number number).isNumber = true := rfl
  rw [unfolded, plain, isNumber, Bool.or_true]
  rfl

/-- And so it is with a number written down. -/
theorem looselyEqual_some_number {value : Json} (some' : value ≠ .null) (number : Double) :
    looselyEqual (some value) (.number number) = numbersOrTexts value.looseNumber?
      (Value.number number).number? value.looseText number.text := by
  have isNumber : (Value.number number).isNumber = true := rfl
  cases value with
  | null => exact absurd rfl some'
  | _ => simp only [looselyEqual, isNumber, Bool.or_true, if_true, Value.text]

/-- An item equals a number of an array as it equals the number rounded. -/
theorem itemsEqual_number (plain : ∀ value ∈ item, value.isContainer = false)
    (representable : number.Representable) :
    itemsEqual item (.number number) = looselyEqual item (.number number.toDouble) := by
  have finite := representable.isFinite
  have hasNumber : (Value.number number.toDouble).number? = some number.toDouble :=
    if_pos finite
  have textParses : (parseNumber number.toDouble.text).isSome = true :=
    Option.isSome_of_eq_some (parseNumber_text finite)
  cases item with
  | none => rfl
  | some value =>
    have plain := plain value rfl
    by_cases null : value = .null
    · rw [null]
      rfl
    -- only a text can be without a number
    have unread : value.looseNumber? = none → parseNumber value.looseText = none := by
      cases value with
      | null => exact absurd rfl null
      | boolean fact => nofun
      | number value => nofun
      | string text => exact id
      | array items => cases plain
      | object entries => cases plain
    rw [itemsEqual_some_number plain null, looselyEqual_some_number null, hasNumber]
    exact numbersOrTexts_eq unread representable.parses textParses

/-- An item equals a text of an array as it equals the text written down. -/
theorem itemsEqual_string (plain : ∀ value ∈ item, value.isContainer = false) (text : String) :
    itemsEqual item (.string text) = looselyEqual item (.string text) := by
  cases item with
  | none => rfl
  | some value =>
    cases value with
    | null => rfl
    | boolean value => rfl
    | number value => rfl
    | string value => rfl
    | array items => cases plain (.array items) rfl
    | object entries => cases plain (.object entries) rfl

/-- **An item equals a text or a number of an array as it equals the value written down.** -/
theorem itemsEqual_eq_looselyEqual (plain : ∀ value ∈ item, value.isContainer = false)
    (textOrNumber : element.TextOrNumber) (isWritten : element.written? = some written) :
    itemsEqual item element = looselyEqual item written := by
  cases element with
  | string text =>
    cases isWritten
    exact itemsEqual_string plain text
  | number number =>
    cases isWritten
    exact itemsEqual_number plain textOrNumber
  | _ => cases textOrNumber

/-! ### Arrays -/

section Engine

variable [PatternEngine]

/-- **Membership in an array is equality with an element.** The item is no array and no object, and
may be missing; the elements are texts and numbers, each written in an expression as the text or as
the number rounded to binary64. -/
theorem evaluate_isIn {context : Context} {key container : String} {elements : List Json}
    (plain : ∀ value ∈ context key, value.isContainer = false)
    (array : context container = some (.array elements))
    (textsAndNumbers : ∀ element ∈ elements, element.TextOrNumber) :
    (isIn key container).evaluate context = true ↔
      ∃ element ∈ elements, ∃ written ∈ element.written?,
        (single (.test (.equals key written) true)).evaluate context = true := by
  have lookup : (isIn key container).evaluate context =
      elements.any (itemsEqual (context key)) := by
    rw [isIn, evaluate_single, Literal.evaluate, Test.evaluate, array, contains, beq_true]
  have equality : ∀ written, (single (.test (.equals key written) true)).evaluate context =
      looselyEqual (context key) written := by
    intro written
    rw [evaluate_single, Literal.evaluate, Test.evaluate, beq_true]
  simp only [lookup, equality, List.any_eq_true]
  refine exists_congr fun element => and_congr_right fun inside => ?_
  have textOrNumber := textsAndNumbers element inside
  constructor
  · intro found
    obtain ⟨written, isWritten⟩ : ∃ written, element.written? = some written := by
      cases element with
      | string text => exact ⟨_, rfl⟩
      | number number => exact ⟨_, rfl⟩
      | _ => cases textOrNumber
    exact ⟨written, isWritten,
      (itemsEqual_eq_looselyEqual plain textOrNumber isWritten).symm.trans found⟩
  · rintro ⟨written, isWritten, holds⟩
    exact (itemsEqual_eq_looselyEqual plain textOrNumber isWritten).trans holds

end Engine

/-- A context with a text of digits under one key, and under another an array that holds them as an
integer, which binary64 cannot represent. -/
def digitsContext : Context := fun key =>
  if key = "id" then some (.string "9007199254740993")
  else if key = "ids" then some (.array [.string "a", .number (.integer 9007199254740993)])
  else none

/-- The digits are in the array, by their number. -/
theorem evaluate_isIn_digits :
    (isIn "id" "ids").evaluate digitsContext = true ↔
      ∃ element ∈ [Json.string "a", .number (.integer 9007199254740993)],
        ∃ written ∈ element.written?,
          (single (.test (.equals "id" written) true)).evaluate digitsContext = true := by
  have plain : ∀ value ∈ digitsContext "id", value.isContainer = false := by
    rintro value ⟨⟩
    rfl
  have textsAndNumbers : ∀ element ∈ [Json.string "a", .number (.integer 9007199254740993)],
      element.TextOrNumber :=
    List.forall_mem_cons.mpr ⟨trivial, List.forall_mem_singleton.mpr ⟨by decide, by decide⟩⟩
  exact evaluate_isIn plain rfl textsAndNumbers

end WhenClause

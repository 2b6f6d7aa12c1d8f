/-
**Numbers read from texts.**

A text is read as a number with the blanks at its ends left out. What is read as a number has no
blanks itself, so a text that writes a number by itself is read as that number.

* `unblank_of_read`: a number is made of digits, signs, a point and the mark of an exponent;
* `parseNumber_text`: the text of a finite number is read back;
* `parseNumber_toString`: so are the digits of an integer of 64 bits, as the nearest number.
-/

import WhenClause.Coercion
import WhenClause.Proofs.Representable
import WhenClause.Proofs.Shortest

namespace WhenClause

open Grammar

variable {text : List Char} {x : Double} {value : Int}

/-! ### Blanks -/

/-- No character of a text is blank. -/
def Unblank (text : List Char) : Prop := ∀ c ∈ text, isBlank c = false

theorem Digits.unblank {digits : List Char} (only : Digits digits) : Unblank digits := by
  intro c member
  have isDigit := only c member
  simp only [Char.isDigit, Bool.and_eq_true, decide_eq_true_eq, UInt32.le_iff_toNat_le] at isDigit
  have code : 48 ≤ c.toNat ∧ c.toNat ≤ 57 := isDigit
  simp only [isBlank, Bool.or_eq_false_iff, Bool.and_eq_false_iff, decide_eq_false_iff_not,
    beq_eq_false_iff_ne]
  omega

/-- A text without blanks has none at its ends. -/
theorem Unblank.trimBlanks (unblank : Unblank text) : WhenClause.trimBlanks text = text := by
  have keeps : ∀ {text : List Char}, Unblank text → text.dropWhile isBlank = text := by
    intro text unblank
    cases text with
    | nil => rfl
    | cons c text =>
      exact List.dropWhile_cons_of_neg (by rw [unblank c List.mem_cons_self]; decide)
  have back : Unblank text.reverse := fun c member => unblank c (List.mem_reverse.mp member)
  rw [WhenClause.trimBlanks, keeps unblank, keeps back, List.reverse_reverse]

theorem unblank_of_splitSign (behind : Unblank (splitSign text).2) : Unblank text := by
  unfold splitSign at behind
  split at behind
  · exact List.forall_mem_cons.mpr ⟨by decide, behind⟩
  · exact List.forall_mem_cons.mpr ⟨by decide, behind⟩
  · exact behind

theorem unblank_of_splitDigits (behind : Unblank (splitDigits text).2) : Unblank text := by
  have front : Digits (splitDigits text).1 := fun c member => List.mem_takeWhile_imp member
  have parts : text = (splitDigits text).1 ++ (splitDigits text).2 :=
    List.takeWhile_append_dropWhile.symm
  rw [parts]
  exact List.forall_mem_append.mpr ⟨front.unblank, behind⟩

theorem unblank_of_splitFraction (behind : Unblank (splitFraction text).2) : Unblank text := by
  unfold splitFraction at behind
  split at behind
  · exact List.forall_mem_cons.mpr ⟨by decide, unblank_of_splitDigits behind⟩
  · exact behind

theorem unblank_of_readExponent {exponent : Int} (read : readExponent text = some exponent) :
    Unblank text := by
  unfold readExponent at read
  split at read
  · exact List.forall_mem_nil _
  · rename_i mark rest
    split at read
    · rename_i isMark
      dsimp only at read
      split at read
      · cases read
      · rename_i whole
        have ends : (splitDigits (splitSign rest).2).2 = [] := by simpa using (not_or.mp whole).2
        refine List.forall_mem_cons.mpr ⟨by rcases isMark with rfl | rfl <;> decide, ?_⟩
        refine unblank_of_splitSign (unblank_of_splitDigits ?_)
        rw [ends]
        exact List.forall_mem_nil _
    · cases read

/-- **What is read as a number has no blanks.** -/
theorem unblank_of_read (read : Double.read text = some x) : Unblank text := by
  unfold Double.read at read
  dsimp only at read
  split at read
  · cases read
  · obtain ⟨exponent, behind, -⟩ := Option.map_eq_some_iff.mp read
    exact unblank_of_splitSign (unblank_of_splitDigits
      (unblank_of_splitFraction (unblank_of_readExponent behind)))

/-! ### Numbers and integers -/

/-- A text that writes a finite number is read as the number. -/
theorem parseNumber_of_read {text : String} (read : Double.read text.toList = some x)
    (finite : x.isFinite = true) : parseNumber text = some x := by
  rw [parseNumber, (unblank_of_read read).trimBlanks, read, Option.filter_some, if_pos finite]

/-- **The text of a finite number is read back.** -/
theorem parseNumber_text (finite : x.isFinite = true) : parseNumber x.text = some x.reread := by
  have isNumber := Double.numberText_characters finite
  refine parseNumber_of_read ?_ isNumber.finite
  rw [Double.text, String.toList_ofList]
  exact isNumber.reads

/-- The digits of an integer are a numeral. -/
theorem toList_toString (value : Int) :
    (toString value).toList = numeral (value < 0) (Nat.toDigits 10 value.natAbs) [] none := by
  cases value with
  | ofNat size =>
    show (toString size).toList = _
    simp [numeral, signText, fractionText, exponentText]
  | negSucc less =>
    show ("-" ++ toString (less + 1)).toList = _
    simp [numeral, signText, fractionText, exponentText, Int.negSucc_lt_zero]

theorem Double.read_toString (value : Int) :
    Double.read (toString value).toList = some (Double.ofInt value) := by
  have isNumeral : IsNumeral (Nat.toDigits 10 value.natAbs) [] none :=
    ⟨Nat.toDigits_ne_nil, digits_toDigits _, nofun, nofun⟩
  rw [toList_toString, read_numeral isNumeral nofun, List.append_nil, digitsValue_toDigits]
  rcases eq_or_ne value 0 with rfl | some'
  · rfl
  · simp [Double.ofScaled, Double.ofInt, exponentPart, some']

theorem parseNumber_toString (within : value.natAbs ≤ 2 ^ 64) :
    parseNumber (toString value) = some (Double.ofInt value) :=
  parseNumber_of_read (Double.read_toString value) (Double.isFinite_ofInt within)

end WhenClause

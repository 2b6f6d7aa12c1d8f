/-
**Numerals.**

A numeral is the general form of a number in an expression: a sign, digits, perhaps a fraction and
perhaps an exponent. `NumeralText` says which texts write its parts; `numeral` is the one of them with
a small `e` and a sign behind it. The grammar takes a numeral as one number, and it is read as the
decimal that it writes, as long as no digits of its exponent are dropped.

* `NumeralText.takeNumber`, `NumeralText.read`: what the grammar takes, and what is read;
* `takeNumber_numeral`, `read_numeral`: the same of the one text, with a small exponent;
* `Decimal.exists_positional`, `Decimal.exists_scientific`: both layouts of a decimal are numerals of
  its value.
-/

import WhenClause.Proofs.Rounding
import WhenClause.Proofs.Token

namespace WhenClause

open Grammar

variable {digits whole fraction rest text behind : List Char} {negative : Bool}
  {exponent : Option (Bool × List Char)}

/-! ### Digits -/

/-- Only decimal digits. -/
def Digits (digits : List Char) : Prop := ∀ c ∈ digits, c.isDigit = true

theorem Digits.append {digits' : List Char} (first : Digits digits) (second : Digits digits') :
    Digits (digits ++ digits') :=
  List.forall_mem_append.mpr ⟨first, second⟩

theorem digits_zeros (count : Nat) : Digits (List.replicate count '0') := by
  intro c member
  rw [List.eq_of_mem_replicate member]
  rfl

theorem digits_toDigits (value : Nat) : Digits (Nat.toDigits 10 value) :=
  fun _ member => Nat.isDigit_of_mem_toDigits (by decide) (by decide) member

/-- Digits end where no other digit follows. -/
theorem Digits.takeWhile (only : Digits digits) (stops : ∀ c ∈ rest.head?, c.isDigit = false) :
    (digits ++ rest).takeWhile Char.isDigit = digits := by
  rw [List.takeWhile_append_of_pos only]
  cases rest with
  | nil => simp
  | cons c rest => rw [List.takeWhile_cons_of_neg (by rw [stops c rfl]; decide), List.append_nil]

theorem Digits.dropWhile (only : Digits digits) (stops : ∀ c ∈ rest.head?, c.isDigit = false) :
    (digits ++ rest).dropWhile Char.isDigit = rest := by
  rw [List.dropWhile_append_of_pos only]
  cases rest with
  | nil => rfl
  | cons c rest => exact List.dropWhile_cons_of_neg (by rw [stops c rfl]; decide)

theorem Digits.split (only : Digits digits) (stops : ∀ c ∈ rest.head?, c.isDigit = false) :
    splitDigits (digits ++ rest) = (digits, rest) := by
  rw [splitDigits, only.takeWhile stops, only.dropWhile stops]

theorem splitSign_of_head_ne (noMinus : text.head? ≠ some '-') (noPlus : text.head? ≠ some '+') :
    splitSign text = (false, text) := by
  unfold splitSign
  split
  · exact absurd rfl noMinus
  · exact absurd rfl noPlus
  · rfl

theorem digitsValue_eq (digits : List Char) : digitsValue digits = Nat.ofDigitChars 10 digits 0 := by
  simp only [digitsValue, Nat.ofDigitChars, Nat.mul_comm]

theorem digitsValue_append (digits digits' : List Char) :
    digitsValue (digits ++ digits') = digitsValue digits * 10 ^ digits'.length +
      digitsValue digits' := by
  rw [digitsValue_eq, Nat.ofDigitChars_append, Nat.ofDigitChars_eq_ofDigitChars_zero,
    digitsValue_eq, digitsValue_eq, Nat.mul_comm]

theorem digitsValue_zeros (count : Nat) : digitsValue (List.replicate count '0') = 0 := by
  rw [digitsValue_eq, Nat.ofDigitChars_replicate_zero, Nat.mul_zero]

theorem digitsValue_toDigits (value : Nat) : digitsValue (Nat.toDigits 10 value) = value := by
  rw [digitsValue_eq, Nat.ofDigitChars_ten_toDigits]

theorem digitsValue_concat (digits : List Char) (digit : Char) :
    digitsValue (digits ++ [digit]) = digitsValue digits * 10 + (digit.toNat - '0'.toNat) := by
  simp [digitsValue]

theorem exponentValue_concat (digits : List Char) (digit : Char) :
    exponentValue (digits ++ [digit]) = if exponentValue digits ≤ openExponent then
      exponentValue digits * 10 + (digit.toNat - '0'.toNat) else exponentValue digits := by
  simp [exponentValue]

/-- No digit of an exponent is dropped as long as those before the last one are not out of bounds. -/
theorem exponentValue_eq (small : digitsValue digits ≤ openExponent * 10 + 9) :
    exponentValue digits = digitsValue digits := by
  induction digits using List.reverseRecOn with
  | nil => rfl
  | append_singleton digits digit ih =>
    rw [digitsValue_concat] at small
    have less : digitsValue digits ≤ openExponent := by omega
    rw [exponentValue_concat, ih (by omega), if_pos less, digitsValue_concat]

/-! ### The general form -/

def signText (negative : Bool) : List Char := if negative then ['-'] else []

def fractionText (fraction : List Char) : List Char := if fraction = [] then [] else '.' :: fraction

/-- An exponent is its sign, whether it is negative, and its digits. -/
def exponentText : Option (Bool × List Char) → List Char
  | none => []
  | some (negative, digits) => 'e' :: (if negative then '-' else '+') :: digits

def numeral (negative : Bool) (whole fraction : List Char)
    (exponent : Option (Bool × List Char)) : List Char :=
  signText negative ++ (whole ++ (fractionText fraction ++ exponentText exponent))

/-- The parts of a numeral are digits, and each that stands there has some. -/
structure IsNumeral (whole fraction : List Char) (exponent : Option (Bool × List Char)) : Prop where
  nonempty : whole ≠ []
  whole : Digits whole
  fraction : Digits fraction
  exponent : ∀ part ∈ exponent, part.2 ≠ [] ∧ Digits part.2

/-- The texts of an exponent: none, or `e` in lower or upper case, a sign that may be missing, and
digits. -/
inductive ExponentText : Option (Bool × List Char) → List Char → Prop where
  | absent : ExponentText none []
  | marked {mark : Char} {sign digits : List Char} (isMark : mark = 'e' ∨ mark = 'E')
      (isSign : sign = [] ∨ sign = ['+'] ∨ sign = ['-']) :
      ExponentText (some (sign == ['-'], digits)) (mark :: (sign ++ digits))

/-- The texts of a numeral. -/
inductive NumeralText (negative : Bool) (whole fraction : List Char)
    (exponent : Option (Bool × List Char)) : List Char → Prop where
  | intro {behind : List Char} (isNumeral : IsNumeral whole fraction exponent)
      (isExponent : ExponentText exponent behind) :
      NumeralText negative whole fraction exponent
        (signText negative ++ (whole ++ (fractionText fraction ++ behind)))

theorem exponentText_isText (exponent : Option (Bool × List Char)) :
    ExponentText exponent (exponentText exponent) := by
  cases exponent with
  | none => exact .absent
  | some part =>
    obtain ⟨negative, digits⟩ := part
    cases negative with
    | true => exact @ExponentText.marked 'e' ['-'] digits (.inl rfl) (.inr (.inr rfl))
    | false => exact @ExponentText.marked 'e' ['+'] digits (.inl rfl) (.inr (.inl rfl))

theorem numeralText_numeral (isNumeral : IsNumeral whole fraction exponent) (negative : Bool) :
    NumeralText negative whole fraction exponent (numeral negative whole fraction exponent) :=
  .intro isNumeral (exponentText_isText exponent)

/-- What an exponent begins with is no digit and no point. -/
theorem ExponentText.head (isExponent : ExponentText exponent behind) :
    ∀ c ∈ behind.head?, c = 'e' ∨ c = 'E' := by
  cases isExponent with
  | absent => exact nofun
  | marked isMark =>
    rintro _ ⟨⟩
    exact isMark

theorem ExponentText.stops (isExponent : ExponentText exponent behind) :
    ∀ c ∈ behind.head?, c.isDigit = false := by
  intro c first
  rcases isExponent.head c first with rfl | rfl <;> decide

theorem ExponentText.noPoint (isExponent : ExponentText exponent behind) :
    ∀ c ∈ behind.head?, c ≠ '.' := by
  intro c first
  rcases isExponent.head c first with rfl | rfl <;> decide

theorem fractionText_stops (fraction : List Char) (isExponent : ExponentText exponent behind) :
    ∀ c ∈ (fractionText fraction ++ behind).head?, c.isDigit = false := by
  unfold fractionText
  split
  · exact isExponent.stops
  · rintro _ ⟨⟩
    decide

/-- A numeral without a sign begins with a digit. -/
theorem IsNumeral.head (isNumeral : IsNumeral whole fraction exponent) (rest : List Char) :
    ∃ c tail, whole ++ rest = c :: tail ∧ c.isDigit = true := by
  obtain ⟨c, tail, rfl⟩ := List.exists_cons_of_ne_nil isNumeral.nonempty
  exact ⟨c, tail ++ rest, rfl, isNumeral.whole c List.mem_cons_self⟩

/-! ### Taking a numeral -/

theorem fractionLength_eq_zero (noPoint : ∀ c ∈ text.head?, c ≠ '.') : fractionLength text = 0 := by
  unfold fractionLength
  split
  · exact absurd rfl (noPoint '.' rfl)
  · rfl

theorem fractionLength_eq (only : Digits fraction) (isExponent : ExponentText exponent behind) :
    fractionLength (fractionText fraction ++ behind) = (fractionText fraction).length := by
  unfold fractionText
  split
  · exact fractionLength_eq_zero isExponent.noPoint
  · rename_i some'
    rw [List.cons_append, fractionLength, only.takeWhile isExponent.stops,
      if_neg (mt List.isEmpty_iff.mp some')]
    rfl

/-- Digits of an exponent begin with no sign. -/
theorem Digits.head_ne (only : Digits digits) {sign : Char} (noDigit : sign.isDigit = false) :
    digits.head? ≠ some sign := by
  intro same
  rw [only sign (List.mem_of_mem_head? same)] at noDigit
  cases noDigit

theorem exponentLength_eq (isExponent : ExponentText exponent behind)
    (parts : ∀ part ∈ exponent, part.2 ≠ [] ∧ Digits part.2) :
    exponentLength behind = behind.length := by
  cases isExponent with
  | absent => rfl
  | @marked mark sign digits isMark isSign =>
    obtain ⟨some', only⟩ := parts _ rfl
    have all : digits.takeWhile Char.isDigit = digits := List.takeWhile_eq_self_iff.mpr only
    have empty : digits.isEmpty = false := Bool.eq_false_iff.mpr (mt List.isEmpty_iff.mp some')
    have noPlus : digits.head? ≠ some '+' := only.head_ne (by decide)
    have noMinus : digits.head? ≠ some '-' := only.head_ne (by decide)
    rcases isSign with rfl | rfl | rfl <;>
      simp [exponentLength, isMark, all, empty, noPlus, noMinus]

/-- **The grammar takes a numeral as one number.** -/
theorem NumeralText.takeNumber (isText : NumeralText negative whole fraction exponent text) :
    takeNumber text = some (text, text.length) := by
  obtain @⟨behind, isNumeral, isExponent⟩ := isText
  obtain ⟨c, tail, begins, digit⟩ := isNumeral.head (fractionText fraction ++ behind)
  generalize same :
    signText negative ++ (whole ++ (fractionText fraction ++ behind)) = text
  have sign : (if text.head? = some '-' then 1 else 0) = (signText negative).length := by
    rw [← same]
    cases negative with
    | true => rfl
    | false =>
      have noSign : c ≠ '-' := by
        rintro rfl
        exact absurd digit (by decide)
      rw [begins]
      simp [signText, noSign]
  have first : text.drop (signText negative).length =
      whole ++ (fractionText fraction ++ behind) := by
    rw [← same, List.drop_left]
  have second : text.drop ((signText negative).length + whole.length) =
      fractionText fraction ++ behind := by
    rw [← List.drop_drop, first, List.drop_left]
  have third : text.drop ((signText negative).length + whole.length +
      (fractionText fraction).length) = behind := by
    rw [← List.drop_drop, second, List.drop_left]
  have total : (signText negative).length + whole.length + (fractionText fraction).length +
      behind.length = text.length := by
    simp only [← same, List.length_append, Nat.add_assoc]
  have digits := isNumeral.whole.takeWhile (fractionText_stops fraction isExponent)
  have some' : whole.isEmpty = false :=
    Bool.eq_false_iff.mpr (mt List.isEmpty_iff.mp isNumeral.nonempty)
  unfold Grammar.takeNumber
  simp only [sign, first, digits, second, fractionLength_eq isNumeral.fraction isExponent, third,
    exponentLength_eq isExponent isNumeral.exponent, total, List.drop_length, List.take_length, some']
  rfl

theorem takeNumber_numeral (isNumeral : IsNumeral whole fraction exponent) (negative : Bool) :
    takeNumber (numeral negative whole fraction exponent) =
      some (numeral negative whole fraction exponent,
        (numeral negative whole fraction exponent).length) :=
  (numeralText_numeral isNumeral negative).takeNumber

/-! ### Reading a numeral -/

/-- The value of an exponent. -/
def exponentPart : Option (Bool × List Char) → Int
  | none => 0
  | some (negative, digits) => if negative then -(digitsValue digits : Int) else digitsValue digits

/-- The value of an exponent as it is read, where digits behind one that is out of all bounds are
dropped. -/
def keptExponent : Option (Bool × List Char) → Int
  | none => 0
  | some (negative, digits) =>
    if negative then -(exponentValue digits : Int) else exponentValue digits

theorem keptExponent_eq (small : ∀ part ∈ exponent, digitsValue part.2 ≤ openExponent * 10 + 9) :
    keptExponent exponent = exponentPart exponent := by
  cases exponent with
  | none => rfl
  | some part => rw [keptExponent, exponentPart, exponentValue_eq (small _ rfl)]

theorem readExponent_eq (isExponent : ExponentText exponent behind)
    (parts : ∀ part ∈ exponent, part.2 ≠ [] ∧ Digits part.2) :
    readExponent behind = some (keptExponent exponent) := by
  cases isExponent with
  | absent => rfl
  | @marked mark sign digits isMark isSign =>
    obtain ⟨some', only⟩ := parts _ rfl
    have split : splitDigits digits = (digits, []) := by
      have whole := @Digits.split digits [] only nofun
      rwa [List.append_nil] at whole
    have empty : digits.isEmpty = false := Bool.eq_false_iff.mpr (mt List.isEmpty_iff.mp some')
    have signs : splitSign (sign ++ digits) = (sign == ['-'], digits) := by
      rcases isSign with rfl | rfl | rfl
      · exact splitSign_of_head_ne (only.head_ne (by decide)) (only.head_ne (by decide))
      · rfl
      · rfl
    simp only [readExponent, isMark, if_true, signs, split, empty, keptExponent]
    cases sign == ['-'] <;> rfl

/-- **A numeral is read as the decimal that it writes**, its exponent as it is kept. -/
theorem NumeralText.read (isText : NumeralText negative whole fraction exponent text) :
    Double.read text = some (Double.ofScaled negative (digitsValue (whole ++ fraction))
      (keptExponent exponent - fraction.length)) := by
  obtain @⟨behind, isNumeral, isExponent⟩ := isText
  obtain ⟨c, tail, begins, digit⟩ := isNumeral.head (fractionText fraction ++ behind)
  have sign : splitSign (signText negative ++ (whole ++ (fractionText fraction ++ behind))) =
      (negative, whole ++ (fractionText fraction ++ behind)) := by
    cases negative with
    | true => rfl
    | false =>
      show splitSign (whole ++ (fractionText fraction ++ behind)) = _
      rw [begins]
      refine splitSign_of_head_ne ?_ ?_ <;>
      · rintro ⟨⟩
        exact absurd digit (by decide)
  have split : splitFraction (fractionText fraction ++ behind) = (fraction, behind) := by
    unfold fractionText
    split
    · rename_i empty
      rw [empty, List.nil_append]
      unfold splitFraction
      split
      · exact absurd rfl (isExponent.noPoint '.' rfl)
      · rfl
    · exact isNumeral.fraction.split isExponent.stops
  have some' : ¬(whole.isEmpty = true ∧ fraction.isEmpty = true) :=
    fun both => isNumeral.nonempty (List.isEmpty_iff.mp both.1)
  unfold Double.read
  simp only [sign, isNumeral.whole.split (fractionText_stops fraction isExponent), split,
    if_neg some', readExponent_eq isExponent isNumeral.exponent, Option.map_some]

theorem read_numeral (isNumeral : IsNumeral whole fraction exponent)
    (small : ∀ part ∈ exponent, digitsValue part.2 ≤ openExponent) (negative : Bool) :
    Double.read (numeral negative whole fraction exponent) =
      some (Double.ofScaled negative (digitsValue (whole ++ fraction))
        (exponentPart exponent - fraction.length)) := by
  rw [(numeralText_numeral isNumeral negative).read,
    keptExponent_eq fun part member => (small part member).trans (by omega)]

/-! ### Layouts of a decimal -/

namespace Decimal

/-- A decimal with some digits, the first of them at the place of its exponent. -/
structure Proper (decimal : Decimal) : Prop where
  nonempty : decimal.digits ≠ []
  digits : Digits decimal.digits

/-- The value of a decimal. -/
def value (decimal : Decimal) : ℚ :=
  digitsValue decimal.digits * 10 ^ (decimal.exponent + 1 - decimal.digits.length)

/-- The digits of a scaled integer, without the zeros at their end, have its value. -/
theorem proper_ofScaled {digits : Nat} (positive : 0 < digits) (place : Int) :
    (ofScaled digits place).Proper ∧ (ofScaled digits place).value = digits * 10 ^ place := by
  obtain ⟨kept, count, parts, same⟩ : ∃ kept count,
      Nat.toDigits 10 digits = kept ++ List.replicate count '0' ∧
        ((Nat.toDigits 10 digits).reverse.dropWhile (· == '0')).reverse = kept := by
    have zeros : (Nat.toDigits 10 digits).reverse.takeWhile (· == '0') =
        List.replicate ((Nat.toDigits 10 digits).reverse.takeWhile (· == '0')).length '0' :=
      List.eq_replicate_iff.mpr ⟨rfl, fun c member => by simpa using List.mem_takeWhile_imp member⟩
    refine ⟨_, ((Nat.toDigits 10 digits).reverse.takeWhile (· == '0')).length, ?_, rfl⟩
    rw [← List.reverse_replicate, ← zeros, ← List.reverse_append, List.takeWhile_append_dropWhile,
      List.reverse_reverse]
  have value : digits = digitsValue kept * 10 ^ count := by
    rw [← digitsValue_toDigits digits, parts, digitsValue_append, digitsValue_zeros,
      List.length_replicate, Nat.add_zero]
  have some' : kept ≠ [] := by
    rintro rfl
    rw [value] at positive
    simp [digitsValue] at positive
  have length : ((Nat.toDigits 10 digits).length - 1 : Nat) = kept.length + count - 1 := by
    rw [parts, List.length_append, List.length_replicate]
  have long : 0 < kept.length := List.length_pos_iff.mpr some'
  unfold ofScaled
  dsimp only
  rw [same, length]
  refine ⟨⟨some', fun c member => ?_⟩, ?_⟩
  · exact digits_toDigits digits c (by rw [parts]; exact List.mem_append_left _ member)
  · have exponent : place + ((kept.length + count - 1 : Nat) : Int) + 1 - kept.length =
        count + place := by omega
    rw [Decimal.value, exponent, zpow_add₀ (by norm_num), ← mul_assoc, zpow_natCast]
    conv_rhs => rw [value]
    push_cast
    rfl

/-- The exponent is the power of ten of the first digit. -/
theorem exponent_bounds {digits : Nat} (positive : 0 < digits) (place : Int) :
    (10 : ℚ) ^ (ofScaled digits place).exponent ≤ digits * 10 ^ place ∧
      (digits * 10 ^ place : ℚ) < 10 ^ ((ofScaled digits place).exponent + 1) := by
  have ten : (10 : ℚ) ≠ 0 := by norm_num
  obtain ⟨count, length⟩ : ∃ count, (Nat.toDigits 10 digits).length = count + 1 :=
    ⟨_, (Nat.succ_pred_eq_of_pos Nat.length_toDigits_pos).symm⟩
  have least : 10 ^ count ≤ digits := by
    rcases Nat.eq_zero_or_pos count with rfl | some'
    · exact positive
    · rw [← Nat.not_lt, ← Nat.length_toDigits_le_iff (by decide) some', length]
      exact Nat.not_succ_le_self count
  have less : digits < 10 ^ (count + 1) := by
    rw [← Nat.length_toDigits_le_iff (by decide) (Nat.succ_pos count), length]
  have exponent : (ofScaled digits place).exponent = count + place := by
    unfold ofScaled
    dsimp only
    rw [length]
    omega
  rw [exponent, zpow_add₀ ten, add_right_comm, zpow_add₀ ten]
  constructor
  · refine mul_le_mul_of_nonneg_right ?_ (zpow_pos (by norm_num) _).le
    exact_mod_cast least
  · refine mul_lt_mul_of_pos_right ?_ (zpow_pos (by norm_num) _)
    exact_mod_cast less

/-- The positional layout is a numeral of the value. -/
theorem exists_positional {decimal : Decimal} (proper : decimal.Proper) (negative : Bool) :
    ∃ whole fraction, IsNumeral whole fraction none ∧
      signText negative ++ decimal.positional [] = numeral negative whole fraction none ∧
      (digitsValue (whole ++ fraction) * 10 ^ (0 - fraction.length : Int) : ℚ) = decimal.value := by
  obtain ⟨digits, exponent⟩ := decimal
  obtain ⟨some', only⟩ := proper
  simp only at some' only
  have noExponent : ∀ part ∈ (none : Option (Bool × List Char)), part.2 ≠ [] ∧ Digits part.2 := nofun
  unfold positional value
  dsimp only
  split
  · rename_i negativeExponent
    have zeros := digits_zeros ((-exponent).toNat - 1)
    have some'' : List.replicate ((-exponent).toNat - 1) '0' ++ digits ≠ [] :=
      List.append_ne_nil_of_right_ne_nil _ some'
    refine ⟨['0'], List.replicate ((-exponent).toNat - 1) '0' ++ digits,
      ⟨List.cons_ne_nil _ _, digits_zeros 1, zeros.append only, noExponent⟩, ?_, ?_⟩
    · simp [numeral, fractionText, exponentText, some']
    · have value : digitsValue (['0'] ++ (List.replicate ((-exponent).toNat - 1) '0' ++ digits)) =
          digitsValue digits := by
        rw [digitsValue_append, digitsValue_append, digitsValue_zeros]
        simp [digitsValue]
      rw [value, List.length_append, List.length_replicate]
      congr 2
      omega
  · rename_i upward
    split
    · rename_i short
      refine ⟨digits ++ List.replicate (exponent.toNat + 1 - digits.length) '0', [],
        ⟨List.append_ne_nil_of_left_ne_nil some' _, only.append (digits_zeros _), nofun,
          noExponent⟩, ?_, ?_⟩
      · simp [numeral, fractionText, exponentText]
      · rw [List.append_nil, digitsValue_append, digitsValue_zeros, List.length_replicate,
          Nat.add_zero, List.length_nil, Nat.cast_zero, sub_zero, zpow_zero, mul_one, Nat.cast_mul,
          Nat.cast_pow, ← zpow_natCast]
        congr 2
        omega
    · rename_i long
      have parts := List.take_append_drop (exponent.toNat + 1) digits
      have some'' : digits.drop (exponent.toNat + 1) ≠ [] := by
        rw [← List.length_pos_iff, List.length_drop]
        omega
      refine ⟨digits.take (exponent.toNat + 1), digits.drop (exponent.toNat + 1),
        ⟨?_, fun c member => only c (List.mem_of_mem_take member),
          fun c member => only c (List.mem_of_mem_drop member), noExponent⟩, ?_, ?_⟩
      · rw [← List.length_pos_iff, List.length_take]
        omega
      · simp [numeral, fractionText, exponentText, some'']
      · rw [parts, List.length_drop]
        congr 2
        omega

/-- The layout with an exponent is a numeral of the value. -/
theorem exists_scientific {decimal : Decimal} (proper : decimal.Proper) (negative : Bool) :
    ∃ whole fraction exponent, IsNumeral whole fraction (some exponent) ∧
      signText negative ++ decimal.scientific = numeral negative whole fraction (some exponent) ∧
      digitsValue exponent.2 = decimal.exponent.natAbs ∧
      (digitsValue (whole ++ fraction) *
        10 ^ (exponentPart (some exponent) - fraction.length : Int) : ℚ) = decimal.value := by
  obtain ⟨digits, exponent⟩ := decimal
  obtain ⟨some', only⟩ := proper
  simp only at some' only
  obtain ⟨first, rest, rfl⟩ := List.exists_cons_of_ne_nil some'
  obtain ⟨isDigit, only⟩ := List.forall_mem_cons.mp only
  have part : exponentPart (some (decide (exponent < 0), Nat.toDigits 10 exponent.natAbs)) =
      exponent := by
    rw [exponentPart, digitsValue_toDigits]
    split
    · rename_i below
      have := of_decide_eq_true below
      omega
    · rename_i above
      have := of_decide_eq_false (Bool.eq_false_iff.mpr above)
      omega
  refine ⟨[first], rest, (decide (exponent < 0), Nat.toDigits 10 exponent.natAbs),
    ⟨List.cons_ne_nil _ _, List.forall_mem_singleton.mpr isDigit, only, ?_⟩, ?_,
    digitsValue_toDigits _, ?_⟩
  · rintro _ ⟨⟩
    exact ⟨Nat.toDigits_ne_nil, digits_toDigits _⟩
  · cases rest <;> simp [scientific, numeral, fractionText, exponentText]
  · rw [part, value]
    congr 2
    simp only [List.length_cons]
    omega

end Decimal

end WhenClause

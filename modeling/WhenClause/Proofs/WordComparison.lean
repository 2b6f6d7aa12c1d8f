/-
**A key compared with a word.**

What `k == w` means is decided by the word alone. `true` and `false` ask for the key's truth, a numeral
is the number nearest to its decimal, and every other word is a text (`parse_equals_word`). A numeral
that no finite number is near to is refused.

* `read_of_takes_test`: a whole text that is one test is read as this test, whether or not it builds;
* `parse_equals`: so parsing a comparison builds the value that is written;
* `parse_dropped_exponent`: a numeral so long that the digits dropped from its exponent matter.
-/

import WhenClause.Proofs.NumberWord
import WhenClause.Proofs.Offset
import WhenClause.Proofs.RoundTrip
import WhenClause.Regex.Engine

namespace WhenClause

open Expression Grammar

variable {size : Nat} {text : List Char}

namespace Grammar

open Reader

/-! ### A text of one test -/

section Alone

variable {α : Type} {item : Reader Formula} {good : Formula → Prop}

/-- Repetition takes nothing where the item is refused. -/
theorem Refuses.takes_repeatedly {item : Reader α} (refuses : Refuses item text) :
    Takes (repeatedly size item) [] text (· = []) := by
  refine (refuses.bind _).orElse fun position => ⟨[], rfl, rfl⟩

/-- An item behind which the text ends is joined with nothing. -/
theorem Takes.joined_alone {mark : Char} {marks : List Char} (takes : Takes item text [] good) :
    Takes (joined size (mark :: marks) item) text [] fun formulas =>
      ∃ formula, formulas = [formula] ∧ good formula := by
  have stops : Refuses (Reader.mark (mark :: marks)) [] := refuses_mark rfl
  have settled : Settled [] := nofun
  refine takes.bind_nil fun formula holds => ?_
  refine (takes_gap gap_nil settled).bind_nil fun _ _ => ?_
  exact (stops.bind _).takes_repeatedly.map fun _ none' => ⟨formula, by rw [none'], holds⟩

variable {good' : WrittenTest → Prop} (begins : BeginsWord text) (takes : Takes test text [] good')

include begins takes

theorem takes_unary_of_test {inner : Reader Formula} : Takes (unary size inner) text []
    fun formula => ∃ written, formula = .test written ∧ good' written := by
  have noMark : Refuses negationMark (text ++ []) :=
    .named (refuses_mark_of_head_ne ((begins.append []).head_ne (by decide)))
  refine .named (noMark.takes_repeatedly.nil_bind fun marks none' => ?_)
  refine (takes_gap gap_nil (begins.append []).settled).nil_bind fun _ _ => ?_
  rw [none']
  exact (takes_primary_of_test begins takes).map fun _ holds => holds

/-- **A text of one test is read as this test.** -/
theorem read_of_takes_test :
    ∃ written, good' written ∧ Grammar.read text = .ok (.any [.all [.test written]]) := by
  have conjunctions : Takes (conjunction (text.length + 1) (disjunction (text.length + 1) text.length))
      text [] fun formula => ∃ written, formula = .all [.test written] ∧ good' written := by
    refine .named ((takes_unary_of_test begins takes).joined_alone.map ?_)
    rintro _ ⟨_, rfl, written, rfl, holds⟩
    exact ⟨written, rfl, holds⟩
  have disjunctions : Takes (disjunction (text.length + 1) (text.length + 1)) text []
      fun formula => ∃ written, formula = .any [.all [.test written]] ∧ good' written := by
    refine .named (conjunctions.joined_alone.map ?_)
    rintro _ ⟨_, rfl, written, rfl, holds⟩
    exact ⟨written, rfl, holds⟩
  have settled : Settled [] := nofun
  have whole : Takes (expression (text.length + 1)) text []
      fun formula => ∃ written, formula = .any [.all [.test written]] ∧ good' written := by
    refine .named ((takes_gap gap_nil (begins.append []).settled).nil_bind fun _ _ => ?_)
    refine disjunctions.bind_nil fun formula holds => ?_
    refine (takes_gap gap_nil settled).bind_nil fun _ _ => ?_
    refine Takes.bind_nil (takes_whole rfl) fun _ _ => ?_
    exact fun position => ⟨formula, rfl, holds⟩
  obtain ⟨_, found, written, rfl, holds⟩ := whole 0
  rw [List.append_nil] at found
  refine ⟨written, holds, ?_⟩
  unfold Grammar.read
  dsimp only [Cursor.start]
  rw [found]

end Alone

end Grammar

/-! ### Comparisons -/

theorem toList_comparison (key word : String) : (key ++ " == " ++ word).toList =
    key.toList ++ ([' '] ++ ("==".toList ++ ([' '] ++ word.toList))) := by
  simp

section Engine

variable [PatternEngine]
variable {facts : Facts} {limits : Limits} {key word : String} {value : Value} {number : Double}

section Comparison

variable (isKey : IsWord key.toList) (isWord : IsWord word.toList)
  (bytes : (key ++ " == " ++ word).utf8ByteSize ≤ limits.expressionBytes)

include isKey isWord bytes

/-- Within the limits a comparison is parsed to what it builds from the value that is read. -/
theorem parse_comparison {good : WrittenValue → Prop} (takes : Takes Grammar.value word.toList [] good) :
    ∃ written, good written ∧ parse facts limits (key ++ " == " ++ word) =
      (Formula.any [.all [.test (.compare key.toList .equal written)]]).build facts limits.clauses
        (key ++ " == " ++ word).toList := by
  have space : Gap [' '] := List.forall_mem_singleton.mpr rfl
  have begins : BeginsWord (key ++ " == " ++ word).toList := by
    rw [toList_comparison]
    exact isKey.beginsWord.append _
  have passes : Passes (key ++ " == " ++ word).toList := by
    rw [toList_comparison]
    exact isKey.passes.append (space.passes.append
      ((passes_operator .equal).append (space.passes.append isWord.passes)))
  have tests := takes_test_of_value (.bare isKey) space (fun empty => nomatch empty) .equal space
    isWord.beginsWord takes
  rw [← toList_comparison] at tests
  obtain ⟨_, ⟨written, rfl, holds⟩, read⟩ := read_of_takes_test begins tests
  refine ⟨written, holds, parse_eq_build bytes ?_ ⟨'=', ?_, by decide⟩ read⟩
  · exact (passes.nests 0).nestingDepth_le.trans (Nat.zero_le _)
  · simp

/-- **A comparison with a value is parsed to the test for equality with it.** -/
theorem parse_equals (free : facts.constant? key = none) (room : 1 ≤ limits.clauses)
    (isValue : ValueText value word.toList) :
    parse facts limits (key ++ " == " ++ word) = .ok (equals facts key value) := by
  obtain ⟨written, builds, parsed⟩ :=
    parse_comparison isKey isWord bytes (takes_value isValue endsWord_nil)
  obtain ⟨literal, same⟩ : ∃ literal, equals facts key value = single literal := by
    generalize value = value'
    cases value' <;> simp [equals, ofTest, free]
  rw [parsed, same]
  refine build_test room ?_
  rw [WrittenTest.build, builds, String.ofList_toList, ← same]
  rfl

/-- A comparison with a number that is not finite is refused. -/
theorem parse_number_out_of_range (taken : takeNumber word.toList = some (word.toList, word.length))
    (reads : Double.read word.toList = some number) (infinite : number.isFinite = false) :
    ∃ span, parse facts limits (key ++ " == " ++ word) =
      .error (.malformed (.numberOutOfRange word) span) := by
  obtain ⟨_, ⟨extent, rfl⟩, parsed⟩ :=
    parse_comparison isKey isWord bytes (takes_value_of_number taken endsWord_nil)
  obtain ⟨span, refused⟩ : ∃ span,
      (WrittenValue.number word.toList extent).build (key ++ " == " ++ word).toList =
        .error (.malformed (.numberOutOfRange word) span) := by
    rw [WrittenValue.build, reads, Option.filter_some, infinite, if_neg Bool.false_ne_true,
      String.ofList_toList]
    exact ⟨_, rfl⟩
  refine ⟨span, parsed.trans (build_test_error ?_)⟩
  rw [WrittenTest.build, refused]
  rfl

end Comparison

/-! ### Words -/

/-- **A comparison with a numeral** is parsed to the test for equality with the number nearest to its
decimal, or refused if no finite number is. -/
theorem parse_equals_numeral {negative : Bool} {whole fraction : List Char}
    {exponent : Option (Bool × List Char)} (isKey : IsWord key.toList) (isWord : IsWord word.toList)
    (bytes : (key ++ " == " ++ word).utf8ByteSize ≤ limits.expressionBytes)
    (free : facts.constant? key = none) (room : 1 ≤ limits.clauses)
    (isText : NumeralText negative whole fraction exponent word.toList) :
    ∃ number : Double, Double.read word.toList = some number ∧
      ((number.isFinite = true ∧ parse facts limits (key ++ " == " ++ word) =
          .ok (single (.test (.equals key (.number number)) true))) ∨
        (number.isFinite = false ∧ ∃ span, parse facts limits (key ++ " == " ++ word) =
          .error (.malformed (.numberOutOfRange word) span))) := by
  have taken := isText.takeNumber
  refine ⟨_, isText.read, ?_⟩
  generalize read : Double.ofScaled _ _ _ = number
  have reads := isText.read.trans (congrArg some read)
  cases finite : number.isFinite with
  | true =>
    refine .inl ⟨rfl, ?_⟩
    rw [parse_equals isKey isWord bytes free room (.number ⟨taken, reads, finite⟩)]
    simp [equals, ofTest, free]
  | false =>
    rw [String.length_toList] at taken
    exact .inr ⟨rfl, parse_number_out_of_range isKey isWord bytes taken reads finite⟩

/-- **What a comparison with a word means.** Within the limits, `true` and `false` ask for the truth of
the key. A numeral is the number nearest to its decimal, with the sign of the numeral, and it is out of
range where that is infinite; the exponent of the decimal is the one that is written, unless the
exponent is beyond 655359 and the word longer than 65000 characters, where digits behind a value above
`openExponent` are dropped from it. Every other word is a text. -/
theorem parse_equals_word (isKey : IsWord key.toList) (isWord : IsWord word.toList)
    (bytes : (key ++ " == " ++ word).utf8ByteSize ≤ limits.expressionBytes)
    (free : facts.constant? key = none) (room : 1 ≤ limits.clauses) :
    (∀ holds, word = Value.booleanText holds →
      parse facts limits (key ++ " == " ++ word) = .ok (single (.test (.has key) holds))) ∧
    (∀ negative whole fraction exponent, NumeralText negative whole fraction exponent word.toList →
      ∃ number : Double, number.negative = negative ∧
        number.Nearest (decimalValue whole fraction (keptExponent exponent)) ∧
        ((∀ part ∈ exponent, digitsValue part.2 ≤ 655359) ∨ word.length ≤ 65000 →
          number.Nearest (decimalValue whole fraction (exponentPart exponent))) ∧
        ((number.isFinite = true ∧ parse facts limits (key ++ " == " ++ word) =
            .ok (single (.test (.equals key (.number number)) true))) ∨
          (number.isInfinite = true ∧ ∃ span, parse facts limits (key ++ " == " ++ word) =
            .error (.malformed (.numberOutOfRange word) span)))) ∧
    ((∀ holds, word ≠ Value.booleanText holds) →
      (¬∃ negative whole fraction exponent, NumeralText negative whole fraction exponent word.toList) →
      parse facts limits (key ++ " == " ++ word) =
        .ok (single (.test (.equals key (.string word)) true))) := by
  refine ⟨?_, ?_, ?_⟩
  · rintro holds rfl
    rw [parse_equals isKey isWord bytes free room (.boolean holds)]
    simp [equals, ofTest, free]
  · intro negative whole fraction exponent isText
    obtain ⟨number, read, sign, nearest, written⟩ := isText.nearest
    obtain ⟨_, read', parsed⟩ := parse_equals_numeral isKey isWord bytes free room isText
    cases read.symm.trans read'
    rw [String.length_toList] at written
    refine ⟨number, sign, nearest, written, parsed.imp_right fun refused => ⟨?_, refused.2⟩⟩
    have atMost := of_decide_eq_false nearest.noNaN
    have atLeast := of_decide_eq_false refused.1
    exact beq_iff_eq.mpr (by omega)
  · intro noBoolean noNumeral
    have noNumber : takeNumber word.toList = none :=
      not_not.mp (mt (takeNumber_ne_none_iff isWord.characters).mp noNumeral)
    have noBoolean' : ∀ holds, word.toList ≠ (Value.booleanText holds).toList :=
      fun holds same => noBoolean holds (String.toList_inj.mp same)
    rw [parse_equals isKey isWord bytes free room (.bare isWord noNumber noBoolean')]
    simp [equals, ofTest, free]

end Engine

/-- The word `-2.5` is a number. -/
theorem parse_equals_word_decimal :
    IsWord "k".toList ∧ IsWord "-2.5".toList ∧
      parse none {} "k == -2.5" =
        .ok (single (.test (.equals "k" (.number (Double.ofScaled true 25 (-1)))) true)) := by
  have isKey : IsWord "k".toList := ⟨by decide, by decide, by decide⟩
  have isWord : IsWord "-2.5".toList := ⟨by decide, by decide, by decide⟩
  have isText : NumeralText true ['2'] ['5'] none "-2.5".toList :=
    .intro ⟨by decide, by unfold Digits; decide, by unfold Digits; decide, nofun⟩ .absent
  obtain ⟨-, numerals, -⟩ :=
    @parse_equals_word _ none {} "k" "-2.5" isKey isWord (by decide) rfl (by decide)
  obtain ⟨number, sign, nearest, -, parsed⟩ := numerals true ['2'] ['5'] none isText
  have value : decimalValue ['2'] ['5'] (keptExponent none) = (25 : Nat) * 10 ^ (-1 : Int) := rfl
  rw [value] at nearest
  have same : number = Double.ofScaled true 25 (-1) := by
    have magnitudes := nearest.unique (Double.nearest_ofScaled true 25 (-1))
    obtain ⟨negative, magnitude⟩ := number
    rw [Double.negative_ofScaled]
    cases sign
    cases magnitudes
    rfl
  subst same
  refine ⟨isKey, isWord, ?_⟩
  rcases parsed with ⟨-, parsed⟩ | ⟨infinite, -⟩
  · exact parsed
  · exact absurd infinite (by decide +kernel)

/-! ### A dropped digit -/

section PowerOfTen

variable (zeros : Nat)

theorem digitsValue_powerOfTen : digitsValue ('1' :: List.replicate zeros '0' ++ []) = 10 ^ zeros := by
  have parts := digitsValue_append ['1'] (List.replicate zeros '0')
  rw [digitsValue_zeros, List.length_replicate, Nat.add_zero] at parts
  rw [List.append_nil]
  exact parts.trans (Nat.one_mul _)

theorem ofScaled_powerOfTen (negative : Bool) (place : Int) :
    Double.ofScaled negative (10 ^ zeros) place = Double.ofScaled negative 1 (place + zeros) := by
  refine Double.ofScaled_congr ?_ negative
  rw [zpow_add₀ (by norm_num), zpow_natCast, Nat.cast_pow, Nat.cast_one, one_mul, mul_comm]
  rfl

theorem numeralText_powerOfTen :
    NumeralText false ('1' :: List.replicate zeros '0') [] (some (true, "655360".toList))
      ('1' :: (List.replicate zeros '0' ++ "e-655360".toList)) := by
  refine numeralText_numeral ⟨List.cons_ne_nil _ _, List.forall_mem_cons.mpr ⟨by decide,
    digits_zeros _⟩, List.forall_mem_nil _, ?_⟩ false
  rintro _ ⟨⟩
  exact ⟨by decide, by unfold Digits; decide⟩

theorem isWord_powerOfTen : IsWord ('1' :: (List.replicate zeros '0' ++ "e-655360".toList)) := by
  refine ⟨List.cons_ne_nil _ _, List.forall_mem_cons.mpr ⟨by decide, ?_⟩, ?_⟩
  · refine List.forall_mem_append.mpr ⟨fun c member => ?_, by decide⟩
    exact isWordCharacter_of_isDigit (digits_zeros _ c member)
  · rintro _ ⟨⟩
    decide

theorem byteLength_powerOfTen :
    byteLength ('1' :: (List.replicate zeros '0' ++ "e-655360".toList)) = zeros + 9 := by
  have single : ∀ c ∈ List.replicate zeros '0', c.utf8Size = 1 := by
    intro c member
    rw [List.eq_of_mem_replicate member]
    rfl
  have front : '1'.utf8Size = 1 := rfl
  have behind : byteLength "e-655360".toList = 8 := rfl
  rw [byteLength_cons, byteLength_append, byteLength_of_forall single, List.length_replicate, front,
    behind]
  omega

end PowerOfTen

/-- Behind the first five digits of the exponent of `1000…e-655360` one is dropped. With 65300 zeros
the numeral is read as `1e-236`, though its decimal is so small that zero is the nearest number. -/
theorem parse_dropped_exponent : ∃ (word : String) (number : Double),
    IsWord "k".toList ∧ IsWord word.toList ∧
      ("k" ++ " == " ++ word).utf8ByteSize ≤ ({} : Limits).expressionBytes ∧
      NumeralText false ('1' :: List.replicate 65300 '0') [] (some (true, "655360".toList))
        word.toList ∧
      parse none {} ("k" ++ " == " ++ word) =
        .ok (single (.test (.equals "k" (.number number)) true)) ∧
      ¬number.Nearest (decimalValue ('1' :: List.replicate 65300 '0') []
        (exponentPart (some (true, "655360".toList)))) := by
  have digits := digitsValue_powerOfTen 65300
  have bytes := byteLength_powerOfTen 65300
  have isText := numeralText_powerOfTen 65300
  have isWord := isWord_powerOfTen 65300
  -- from here on the zeros are a text like any other
  generalize '1' :: List.replicate 65300 '0' = whole at *
  generalize '1' :: (List.replicate 65300 '0' ++ "e-655360".toList) = text at *
  have isKey : IsWord "k".toList := ⟨by decide, by decide, by decide⟩
  have short : ("k" ++ " == " ++ String.ofList text).utf8ByteSize ≤
      ({} : Limits).expressionBytes := by
    rw [String.utf8ByteSize_append, utf8ByteSize_ofList, bytes]
    decide
  rw [← String.toList_ofList (l := text)] at isText isWord
  obtain ⟨number, read, parsed⟩ := @parse_equals_numeral _ none {} "k" (String.ofList text) _ _ _ _
    isKey isWord short rfl (by decide) isText
  have same : number = Double.ofScaled false 1 (-236) := by
    have kept : keptExponent (some (true, "655360".toList)) = -65536 := by decide
    rw [isText.read, digits, ofScaled_powerOfTen, kept] at read
    exact (Option.some.inj read).symm
  refine ⟨String.ofList text, number, isKey, isWord, short, isText, ?_, fun nearest => ?_⟩
  · rcases parsed with ⟨-, parsed⟩ | ⟨infinite, -⟩
    · exact parsed
    · rw [same] at infinite
      exact absurd infinite (by decide +kernel)
  · have written : exponentPart (some (true, "655360".toList)) = -655360 := by decide
    have magnitudes := nearest.unique (Double.nearest_ofScaled false _ _)
    have zero : Double.ofScaled false 1 (-655360 - ([] : List Char).length + (65300 : Nat)) =
        Double.ofMagnitude false 0 :=
      Double.ofScaled_of_small (show 1 < 10 ^ 1 by decide) (by decide)
    rw [digits, ofScaled_powerOfTen, written, zero, same] at magnitudes
    exact absurd magnitudes (by decide +kernel)

end WhenClause

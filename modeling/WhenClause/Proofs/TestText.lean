/-
**Tests and their texts.**

`TestText` says which texts write a test, and `takes_test` that the grammar takes each of them, and
reads what builds the expression of the test. Forms that are tried before the right one are refused
behind the key, which all forms begin with.
-/

import WhenClause.Proofs.Token

namespace WhenClause.Grammar

open Reader

variable {name text rest before behind key mark : List Char}

/-! ### Words in front -/

theorem refuses_notWord (other : ∀ c ∈ text.head?, c ≠ 'n') : Refuses notWord text :=
  refuses_word (by decide) (wordOf_ne other _)

theorem refuses_inWord (other : ∀ c ∈ text.head?, c ≠ 'i') : Refuses inWord text :=
  refuses_word (by decide) (wordOf_ne other _)

/-! ### What follows a test -/

/-- What stands behind the gap in front, if anything does, is one of some characters. -/
def Follows (marks rest : List Char) : Prop := ∀ c ∈ (rest.dropWhile isGap).head?, c ∈ marks

/-- The characters that may follow a test, apart from a gap. -/
def testEnds : List Char := [')', '&', '|']

theorem Follows.endsWord (follows : Follows testEnds rest) : EndsWord rest := by
  cases rest with
  | nil => exact endsWord_nil
  | cons c rest =>
    by_cases gap : isGap c = true
    · exact endsWord_cons (isWordCharacter_of_isGap gap)
    · refine endsWord_cons ?_
      have ends : ∀ c ∈ testEnds, isWordCharacter c = false := by decide
      refine ends c (follows c ?_)
      rw [List.dropWhile_cons_of_neg gap]
      rfl

/-! ### Forms that begin with a key -/

section Keyed

variable {construct : Construct} {next : List Char → Reader WrittenTest}
  {good : WrittenTest → Prop} (isKey : KeyText name key) (only : Gap before)

include isKey only

/-- A form that begins with a key and a gap is taken if the rest of it is. -/
theorem takes_keyed (ends : Ends key (before ++ (text ++ rest))) (settled : Settled (text ++ rest))
    (takes : Takes (next name) text rest good) :
    Takes (named construct do let name ← Grammar.key; gap; next name) (key ++ (before ++ text)) rest
      good := by
  have ends' : Ends key (before ++ text ++ rest) := by rwa [List.append_assoc]
  refine .named ((takes_key isKey ends').bind fun name' same =>
    (takes_gap only settled).bind fun _ _ => ?_)
  rw [same]
  exact takes

/-- Such a form is refused if the rest of it is. -/
theorem refuses_keyed (ends : Ends key (before ++ (text ++ rest))) (settled : Settled (text ++ rest))
    (refuses : ∀ name, Refuses (next name) (text ++ rest)) :
    Refuses (named construct do let name ← Grammar.key; gap; next name)
      (key ++ (before ++ text) ++ rest) := by
  rw [List.append_assoc, List.append_assoc]
  exact .named ((takes_key isKey ends).bind_refuses fun name _ =>
    (takes_gap only settled).bind_refuses fun _ _ => refuses name)

variable (ends : Ends key (before ++ (text ++ rest))) (settled : Settled (text ++ rest))

include ends settled

theorem refuses_patternTest (other : Refuses (Reader.mark ['=', '~']) (text ++ rest)) :
    Refuses patternTest (key ++ (before ++ text) ++ rest) :=
  refuses_keyed isKey only ends settled fun _ => other.bind _

theorem refuses_notInTest (other : Refuses notWord (text ++ rest)) :
    Refuses notInTest (key ++ (before ++ text) ++ rest) :=
  refuses_keyed isKey only ends settled fun _ => other.bind _

theorem refuses_inTest (other : Refuses inWord (text ++ rest)) :
    Refuses inTest (key ++ (before ++ text) ++ rest) :=
  refuses_keyed isKey only ends settled fun _ => other.bind _

theorem refuses_comparison (other : Refuses Grammar.operator (text ++ rest)) :
    Refuses comparison (key ++ (before ++ text) ++ rest) :=
  refuses_keyed isKey only ends settled fun _ => other.bind _

end Keyed

/-! ### Tests -/

/-- Where a key stands alone, every form that needs more is refused, and the others are tried. -/
theorem takes_test_of_alone {good : WrittenTest → Prop} (isKey : KeyText name text)
    (follows : Follows testEnds rest)
    (takes : Takes (firstOf [(do trueWord; return .constant true),
      (do falseWord; return .constant false), keyTest]) text rest good) :
    Takes test text rest good := by
  have parts : rest.takeWhile isGap ++ (rest.dropWhile isGap ++ []) = rest := by
    rw [List.append_nil, List.takeWhile_append_dropWhile]
  have whole : text ++ rest = text ++ (rest.takeWhile isGap ++ rest.dropWhile isGap) ++ [] := by
    rw [List.append_nil, List.takeWhile_append_dropWhile]
  have only : Gap (rest.takeWhile isGap) := fun c member => List.mem_takeWhile_imp member
  have settled : Settled (rest.dropWhile isGap ++ []) := by
    rw [List.append_nil]
    exact settled_dropWhile rest
  have ends : Ends text (rest.takeWhile isGap ++ (rest.dropWhile isGap ++ [])) := by
    rw [parts]
    exact .inr follows.endsWord
  have front : ∀ {c}, c ∉ testEnds → ∀ d ∈ (rest.dropWhile isGap ++ []).head?, d ≠ c := by
    rw [List.append_nil]
    rintro c outside d member rfl
    exact outside (follows d member)
  refine Refuses.firstOf ?_ (Refuses.firstOf ?_ (Refuses.firstOf ?_ (Refuses.firstOf ?_ takes)))
  all_goals rw [whole]
  · exact refuses_patternTest isKey only ends settled (refuses_mark_of_head_ne (front (by decide)))
  · exact refuses_notInTest isKey only ends settled (refuses_notWord (front (by decide)))
  · exact refuses_inTest isKey only ends settled (refuses_inWord (front (by decide)))
  · refine refuses_comparison isKey only ends settled (refuses_operator fun c member => ?_)
    have noOperator : ∀ c ∈ testEnds, c ∉ "=!<>".toList := by decide
    rw [List.append_nil] at member
    exact noOperator c (follows c member)

/-- A Boolean that stands alone is a constant. -/
theorem takes_test_of_constant (value : Bool) (follows : Follows testEnds rest) :
    Takes test (Value.booleanText value).toList rest (· = .constant value) := by
  have isWord : IsWord (Value.booleanText value).toList :=
    ⟨by cases value <;> decide, booleanText_characters value, by cases value <;> decide⟩
  have ends := follows.endsWord
  refine takes_test_of_alone (.bare isWord) follows ?_
  cases value with
  | true =>
    refine Takes.firstOf ((takes_word isWord.characters ends).map ?_) _
    exact fun _ _ => rfl
  | false =>
    have noTrue : wordOf ((Value.booleanText false).toList ++ rest) ≠ "true".toList := by
      rw [wordOf_append ends]
      decide
    refine ((refuses_word (by decide) noTrue).bind _).firstOf
      (Takes.firstOf ((takes_word isWord.characters ends).map ?_) _)
    exact fun _ _ => rfl

/-- Any other key that stands alone is a test of its truth. -/
theorem takes_test_of_has (isKey : KeyText name text)
    (noBoolean : ∀ value, text ≠ (Value.booleanText value).toList)
    (follows : Follows testEnds rest) : Takes test text rest (· = .has name) := by
  have ends := follows.endsWord
  have other : ∀ value, wordOf (text ++ rest) ≠ (Value.booleanText value).toList := by
    intro value
    rw [wordOf_append ends]
    cases isKey with
    | bare isWord =>
      rw [isWord.wordOf_eq]
      exact noBoolean value
    | quoted quoted =>
      rw [wordOf_eq_nil (endsWord_quote _)]
      cases value <;> decide
  refine takes_test_of_alone isKey follows ?_
  refine ((refuses_word (by decide) (other true)).bind _).firstOf
    (((refuses_word (by decide) (other false)).bind _).firstOf (.firstOf (.named ?_) _))
  exact (takes_key isKey (.inr ends)).map fun _ same => by rw [same]

/-- A pattern test is taken if its pattern literal is. -/
theorem takes_test_of_patternLiteral {good : List Char × List Char × Extent → Prop}
    (isKey : KeyText name key) (only : Gap before) (only' : Gap behind)
    (settled : Settled (text ++ rest)) (takes : Takes patternLiteral text rest good) :
    Takes test (key ++ (before ++ ("=~".toList ++ (behind ++ text)))) rest fun written =>
      ∃ read, good read ∧ written = .matching name read.1 read.2.1 read.2.2 := by
  refine Takes.firstOf (takes_keyed isKey only ?_ ?_ ?_) _
  · exact .inr (only.endsWord fun _ => endsWord_cons (by decide))
  · exact settled_cons (by decide)
  refine (takes_mark "=~".toList _).bind fun _ _ =>
    (takes_gap only' settled).bind fun _ _ => takes.map ?_
  exact fun read holds => ⟨read, holds, rfl⟩

theorem takes_test_of_member {name' container : List Char}
    (isKey : KeyText name key) (only : Gap before) (apart : Apart key before "in".toList)
    (only' : Gap behind) (apart' : Apart "in".toList behind container)
    (isKey' : KeyText name' container) (ends : EndsWord rest) :
    Takes test (key ++ (before ++ ("in".toList ++ (behind ++ container)))) rest
      (· = .member name name') := by
  have ends' : Ends key (before ++ ("in".toList ++ (behind ++ container) ++ rest)) := by
    rw [List.append_assoc]
    exact apart.ends only (by decide) _
  have settled : Settled ("in".toList ++ (behind ++ container) ++ rest) := settled_cons (by decide)
  have behindIn : EndsWord (behind ++ container ++ rest) := by
    rw [List.append_assoc]
    exact (apart'.ends only' isKey'.beginsWord.nonempty rest).endsWord (by decide) (by decide)
  refine Refuses.firstOf ?_ (Refuses.firstOf ?_
    (Takes.firstOf (takes_keyed isKey only ends' settled ?_) _))
  · exact refuses_patternTest isKey only ends' settled
      (refuses_mark_of_head_ne (by rintro _ ⟨⟩; decide))
  · exact refuses_notInTest isKey only ends' settled (refuses_notWord (by rintro _ ⟨⟩; decide))
  refine (takes_word (by decide) behindIn).bind fun _ _ =>
    (takes_gap only' (isKey'.beginsWord.append rest).settled).bind fun _ _ =>
      (takes_key isKey' (.inr ends)).map ?_
  exact fun _ same => by rw [same]

theorem takes_test_of_notMember {name' container between : List Char}
    (isKey : KeyText name key) (only : Gap before) (apart : Apart key before "not".toList)
    (only' : Gap between) (apart' : Apart "not".toList between "in".toList)
    (only'' : Gap behind) (apart'' : Apart "in".toList behind container)
    (isKey' : KeyText name' container) (ends : EndsWord rest) :
    Takes test (key ++ (before ++ ("not".toList ++ (between ++ ("in".toList ++
      (behind ++ container)))))) rest (· = .notMember name name') := by
  have ends' : Ends key (before ++ ("not".toList ++ (between ++ ("in".toList ++
      (behind ++ container))) ++ rest)) := by
    rw [List.append_assoc]
    exact apart.ends only (by decide) _
  have settled : Settled ("not".toList ++ (between ++ ("in".toList ++ (behind ++ container))) ++
      rest) := settled_cons (by decide)
  have behindNot : EndsWord (between ++ ("in".toList ++ (behind ++ container)) ++ rest) := by
    rw [List.append_assoc, List.append_assoc]
    exact (apart'.ends only' (by decide) _).endsWord (by decide) (by decide)
  have behindIn : EndsWord (behind ++ container ++ rest) := by
    rw [List.append_assoc]
    exact (apart''.ends only'' isKey'.beginsWord.nonempty rest).endsWord (by decide) (by decide)
  refine Refuses.firstOf ?_ (Takes.firstOf (takes_keyed isKey only ends' settled ?_) _)
  · exact refuses_patternTest isKey only ends' settled
      (refuses_mark_of_head_ne (by rintro _ ⟨⟩; decide))
  refine (takes_word (by decide) behindNot).bind fun _ _ =>
    (takes_gap only' (settled_cons (by decide))).bind fun _ _ =>
      (takes_word (by decide) behindIn).bind fun _ _ =>
        (takes_gap only'' (isKey'.beginsWord.append rest).settled).bind fun _ _ =>
          (takes_key isKey' (.inr ends)).map ?_
  exact fun _ same => by rw [same]

/-- A comparison is taken if its value is. -/
theorem takes_test_of_value {operator : Operator} {good : WrittenValue → Prop}
    (isKey : KeyText name key) (only : Gap before) (apart : Apart key before mark)
    (isOperator : OperatorText operator mark) (only' : Gap behind) (begins : BeginsWord text)
    (takes : Takes Grammar.value text rest good) :
    Takes test (key ++ (before ++ (mark ++ (behind ++ text)))) rest fun written =>
      ∃ value, written = .compare name operator value ∧ good value := by
  have begins := begins.append rest
  have ends' : Ends key (before ++ (mark ++ (behind ++ text) ++ rest)) := by
    rw [List.append_assoc]
    exact apart.ends only isOperator.nonempty _
  have settled : Settled (mark ++ (behind ++ text) ++ rest) := by
    rw [List.append_assoc]
    exact isOperator.settled _
  have noMore : ∀ c ∈ (behind ++ text ++ rest).head?, c ≠ '=' := by
    rw [List.append_assoc]
    exact only'.head_ne (by decide) (begins.head_ne (by decide))
  have front : ∀ {first}, first ∉ "=!<>".toList →
      ∀ c ∈ (mark ++ (behind ++ text) ++ rest).head?, c ≠ first := by
    intro first other
    rw [List.append_assoc]
    exact isOperator.head_ne other
  refine Refuses.firstOf ?_ (Refuses.firstOf ?_ (Refuses.firstOf ?_
    (Takes.firstOf (takes_keyed isKey only ends' settled ?_) _)))
  · refine refuses_patternTest isKey only ends' settled (refuses_mark ?_)
    rw [List.append_assoc]
    exact isOperator.noPatternMark
  · exact refuses_notInTest isKey only ends' settled (refuses_notWord (front (by decide)))
  · exact refuses_inTest isKey only ends' settled (refuses_inWord (front (by decide)))
  refine (takes_operator isOperator noMore).bind fun operator' same =>
    (takes_gap only' begins.settled).bind fun _ _ => takes.map ?_
  exact fun value holds => ⟨value, by rw [same], holds⟩

theorem takes_test_of_compare {operator : Operator} {value : Value} (isKey : KeyText name key)
    (only : Gap before) (apart : Apart key before mark) (isOperator : OperatorText operator mark)
    (only' : Gap behind) (isValue : ValueText value text) (ends : EndsWord rest) :
    Takes test (key ++ (before ++ (mark ++ (behind ++ text)))) rest fun written =>
      ∃ value', written = .compare name operator value' ∧ ∀ source, value'.build source = .ok value :=
  takes_test_of_value isKey only apart isOperator only' isValue.beginsWord (takes_value isValue ends)

/-! ### Texts of tests -/

variable [PatternEngine] {literal : Literal}

/-- The literal of a key compared with a value. -/
def Operator.toLiteral (key : String) (value : Value) : Operator → Literal
  | .equal => .test (.equals key value) true
  | .differ => .test (.equals key value) false
  | .ordered comparison => .ordered key comparison value

/-- The texts that write a test. A key that stands alone is not `true` or `false`. -/
inductive TestText : Literal → List Char → Prop where
  | has {name text : List Char} (isKey : KeyText name text)
      (noBoolean : ∀ value, text ≠ (Value.booleanText value).toList) :
      TestText (.test (.has (String.ofList name)) true) text
  | matching {name key before behind text : List Char} {pattern : PatternLiteral}
      (isKey : KeyText name key) (only : Gap before) (only' : Gap behind)
      (isPattern : PatternText pattern text) :
      TestText (.test (.matching (String.ofList name) pattern) true)
        (key ++ (before ++ ("=~".toList ++ (behind ++ text))))
  | member {name name' key container before behind : List Char}
      (isKey : KeyText name key) (only : Gap before) (apart : Apart key before "in".toList)
      (only' : Gap behind) (apart' : Apart "in".toList behind container)
      (isKey' : KeyText name' container) :
      TestText (.test (.member (String.ofList name) (String.ofList name')) true)
        (key ++ (before ++ ("in".toList ++ (behind ++ container))))
  | notMember {name name' key container before between behind : List Char}
      (isKey : KeyText name key) (only : Gap before) (apart : Apart key before "not".toList)
      (only' : Gap between) (apart' : Apart "not".toList between "in".toList)
      (only'' : Gap behind) (apart'' : Apart "in".toList behind container)
      (isKey' : KeyText name' container) :
      TestText (.test (.member (String.ofList name) (String.ofList name')) false)
        (key ++ (before ++ ("not".toList ++ (between ++ ("in".toList ++ (behind ++ container))))))
  | compare {name key mark before behind text : List Char} {operator : Operator} {value : Value}
      (isKey : KeyText name key) (only : Gap before) (apart : Apart key before mark)
      (isOperator : OperatorText operator mark) (only' : Gap behind)
      (isValue : ValueText value text) :
      TestText (operator.toLiteral (String.ofList name) value)
        (key ++ (before ++ (mark ++ (behind ++ text))))

theorem TestText.beginsWord (text' : TestText literal text) : BeginsWord text := by
  cases text' with
  | has isKey => exact isKey.beginsWord
  | matching isKey => exact isKey.beginsWord.append _
  | member isKey => exact isKey.beginsWord.append _
  | notMember isKey => exact isKey.beginsWord.append _
  | compare isKey => exact isKey.beginsWord.append _

theorem takes_test_of_matching {pattern : PatternLiteral} (isKey : KeyText name key)
    (only : Gap before) (only' : Gap behind) (isPattern : PatternText pattern text)
    (ends : EndsWord rest) :
    Takes test (key ++ (before ++ ("=~".toList ++ (behind ++ text)))) rest fun written =>
      ∃ source flags extent, written = .matching name source flags extent ∧
        PatternLiteral.ofSource (String.ofList source) flags = .ok pattern := by
  refine (takes_test_of_patternLiteral isKey only only' (isPattern.settled rest)
    (takes_patternLiteral isPattern ends)).mono ?_
  rintro _ ⟨⟨source, flags, extent⟩, made, rfl⟩
  exact ⟨source, flags, extent, rfl, made⟩

/-- **Every test is taken as a whole, and what is read builds its expression.** -/
theorem takes_test (isTest : TestText literal text) (follows : Follows testEnds rest) :
    Takes test text rest fun written =>
      ∀ facts source, written.build facts source = .ok (Expression.ofLiteral facts literal) := by
  have ends := follows.endsWord
  cases isTest with
  | has isKey noBoolean =>
    refine (takes_test_of_has isKey noBoolean follows).mono ?_
    rintro _ rfl facts source
    rfl
  | matching isKey only only' isPattern =>
    refine (takes_test_of_matching isKey only only' isPattern ends).mono ?_
    rintro _ ⟨source, flags, extent, rfl, made⟩ facts text
    simp only [WrittenTest.build, made]
    rfl
  | member isKey only apart only' apart' isKey' =>
    refine (takes_test_of_member isKey only apart only' apart' isKey' ends).mono ?_
    rintro _ rfl facts source
    rfl
  | notMember isKey only apart only' apart' only'' apart'' isKey' =>
    refine (takes_test_of_notMember isKey only apart only' apart' only'' apart'' isKey' ends).mono ?_
    rintro _ rfl facts source
    rfl
  | @compare _ _ _ _ _ _ operator _ isKey only apart isOperator only' isValue =>
    refine (takes_test_of_compare isKey only apart isOperator only' isValue ends).mono ?_
    rintro _ ⟨value', rfl, builds⟩ facts source
    rw [WrittenTest.build, builds]
    cases operator <;> rfl

end WhenClause.Grammar

/-
**Tokens and their texts.**

Each kind of token has a relation that says which texts write it: `KeyText`, `NumberText`,
`ValueText`, `PatternText`, `OperatorText`. None of them mentions what stands behind the token.

* `takes_key`, `takes_value`, `takes_operator`, `takes_patternLiteral`: in front of a text the grammar
  takes exactly the token, as long as what stands behind does not go on with it;
* `splitSourceFrom_append`: a pattern source ends at the slash behind it if its classes are closed and it
  does not end in a backslash, which would take the slash with it.
-/

import WhenClause.Parse
import WhenClause.Proofs.Word

namespace WhenClause.Grammar

open Reader

variable {word text rest gap content body name source flags : List Char} {position : Nat}
  {value : Value} {operator : Operator}

/-! ### Ends of tokens -/

/-- What one text ends with and what another begins with are not parts of one word. -/
def Ends (left right : List Char) : Prop :=
  (∀ c ∈ left.getLast?, isWordCharacter c = false) ∨ EndsWord right

/-- A gap may be missing only where two texts are not joined to one word by that. -/
def Apart (left gap right : List Char) : Prop := gap = [] → Ends left right

theorem EndsWord.append (ends : EndsWord text) (nonempty : text ≠ []) : EndsWord (text ++ rest) := by
  cases text with
  | nil => exact absurd rfl nonempty
  | cons c text => exact endsWord_cons (ends c rfl)

theorem Ends.append (ends : Ends word text) (nonempty : text ≠ []) : Ends word (text ++ rest) :=
  ends.imp_right fun ends => ends.append nonempty

theorem Apart.ends (apart : Apart word gap text) (only : Gap gap) (nonempty : text ≠ [])
    (rest : List Char) :
    Ends word (gap ++ (text ++ rest)) := by
  by_cases empty : gap = []
  · rw [empty]
    exact (apart empty).append nonempty
  · exact .inr (only.endsWord fun empty' => absurd empty' empty)

/-- Behind a word nothing may go on with it. -/
theorem Ends.endsWord (ends : Ends word rest) (nonempty : word ≠ [])
    (characters : ∀ c ∈ word, isWordCharacter c = true) : EndsWord rest := by
  refine ends.resolve_left fun outside => ?_
  have last := List.getLast?_eq_some_getLast nonempty
  have := outside _ last
  rw [characters _ (List.getLast_mem nonempty)] at this
  cases this

/-- A token that may stand for a key or a value begins with a word character or a quote. -/
def BeginsWord (text : List Char) : Prop :=
  ∃ c rest, text = c :: rest ∧ (isWordCharacter c = true ∨ c = '\'')

theorem BeginsWord.nonempty (begins : BeginsWord text) : text ≠ [] := by
  obtain ⟨c, rest, rfl, -⟩ := begins
  exact List.cons_ne_nil c rest

theorem BeginsWord.append (begins : BeginsWord text) (rest : List Char) :
    BeginsWord (text ++ rest) := by
  obtain ⟨c, tail, rfl, first⟩ := begins
  exact ⟨c, tail ++ rest, rfl, first⟩

theorem BeginsWord.settled (begins : BeginsWord text) : Settled text := by
  obtain ⟨c, rest, rfl, first⟩ := begins
  refine settled_cons ?_
  rcases first with inWord | rfl
  · exact isGap_of_isWordCharacter inWord
  · decide

/-- No operator and no parenthesis stands where a key or a value begins. -/
theorem BeginsWord.head_ne (begins : BeginsWord text) {mark : Char}
    (operator : mark ∈ "()!&|=~".toList) : ∀ c ∈ text.head?, c ≠ mark := by
  obtain ⟨c, rest, rfl, first⟩ := begins
  rintro _ ⟨⟩ rfl
  have marks : ∀ c ∈ "()!&|=~".toList, isWordCharacter c = false ∧ c ≠ '\'' := by decide
  obtain ⟨outside, noQuote⟩ := marks c operator
  rcases first with inWord | quote
  · rw [outside] at inWord
    cases inWord
  · exact noQuote quote

/-! ### Quoted text -/

/-- A text, and what stands for it between quotes. A quote needs a backslash before it; a backslash
may have another one before it, unless it stands before some other character. -/
inductive QuotedAs : List Char → List Char → Prop where
  | nil : QuotedAs [] []
  | plain {c : Char} {content body : List Char} (ordinary : c ≠ '\'' ∧ c ≠ '\\')
      (rest : QuotedAs content body) : QuotedAs (c :: content) (c :: body)
  | escaped {c : Char} {content body : List Char} (special : c = '\'' ∨ c = '\\')
      (rest : QuotedAs content body) : QuotedAs (c :: content) ('\\' :: c :: body)
  | backslash {c : Char} {content body : List Char} (ordinary : c ≠ '\'' ∧ c ≠ '\\')
      (rest : QuotedAs content body) : QuotedAs ('\\' :: c :: content) ('\\' :: c :: body)

/-- A body goes on behind a character that is neither a quote nor a backslash. -/
theorem splitBodyFrom_cons {c : Char} (ordinary : c ≠ '\'' ∧ c ≠ '\\') (before rest : List Char) :
    Quoted.splitBodyFrom before (c :: rest) = Quoted.splitBodyFrom (c :: before) rest := by
  rw [Quoted.splitBodyFrom]
  · exact fun _ _ same => absurd same ordinary.2
  · exact fun same => absurd same ordinary.1

theorem splitBodyFrom_append (quoted : QuotedAs content body) (before rest : List Char) :
    Quoted.splitBodyFrom before (body ++ '\'' :: rest) =
      (before.reverse ++ body, '\'' :: rest) := by
  induction quoted generalizing before with
  | nil => simp [Quoted.splitBodyFrom]
  | plain ordinary _ ih =>
    rw [List.cons_append, splitBodyFrom_cons ordinary, ih]
    simp
  | escaped _ _ ih =>
    rw [List.cons_append, List.cons_append, Quoted.splitBodyFrom, ih]
    simp
  | backslash _ _ ih =>
    rw [List.cons_append, List.cons_append, Quoted.splitBodyFrom, ih]
    simp

theorem unescapeFrom_of_quotedAs (quoted : QuotedAs content body) (before : List Char) :
    Quoted.unescapeFrom before body = before.reverse ++ content := by
  induction quoted generalizing before with
  | nil => simp [Quoted.unescapeFrom]
  | plain ordinary _ ih =>
    rw [Quoted.unescapeFrom, ih]
    · simp
    · exact fun _ _ same => absurd same ordinary.2
  | escaped special _ ih =>
    rw [Quoted.unescapeFrom, if_pos special, ih]
    simp
  | backslash ordinary _ ih =>
    rw [Quoted.unescapeFrom, if_neg (not_or.mpr ordinary), ih]
    simp

/-- **Quoted text is taken up to its closing quote.** -/
theorem takes_quotedString (quoted : QuotedAs content body) (rest : List Char) :
    Takes quotedString ('\'' :: (body ++ ['\''])) rest (· = content) := by
  have split : Quoted.splitBody (body ++ '\'' :: rest) = (body, '\'' :: rest) :=
    splitBodyFrom_append quoted [] rest
  have read : Quoted.unescape body = content := unescapeFrom_of_quotedAs quoted []
  have shape : '\'' :: (body ++ ['\'']) ++ rest = '\'' :: (body ++ '\'' :: rest) := by simp
  refine takes_whole ?_
  rw [shape]
  simp only [split, read, List.length_cons, List.length_append, List.length_nil]

theorem refuses_quotedString (begins : ∀ c ∈ text.head?, c ≠ '\'') : Refuses quotedString text := by
  refine refuses_whole ?_
  split
  · exact absurd rfl (begins '\'' rfl)
  · rfl

/-! ### Keys -/

/-- The texts that name a key: a word, or a text between quotes. -/
inductive KeyText : List Char → List Char → Prop where
  | bare {word : List Char} (isWord : IsWord word) : KeyText word word
  | quoted {content body : List Char} (quoted : QuotedAs content body) :
      KeyText content ('\'' :: (body ++ ['\'']))

theorem IsWord.beginsWord (isWord : IsWord word) : BeginsWord word := by
  obtain ⟨c, rest, rfl⟩ := List.exists_cons_of_ne_nil isWord.nonempty
  exact ⟨c, rest, rfl, .inl (isWord.characters c List.mem_cons_self)⟩

theorem KeyText.beginsWord (key : KeyText name text) : BeginsWord text := by
  cases key with
  | bare isWord => exact isWord.beginsWord
  | quoted => exact ⟨_, _, rfl, .inr rfl⟩

theorem IsWord.head_ne_quote (isWord : IsWord word) : ∀ c ∈ (word ++ rest).head?, c ≠ '\'' := by
  obtain ⟨c, tail, rfl⟩ := List.exists_cons_of_ne_nil isWord.nonempty
  rintro _ ⟨⟩ rfl
  exact absurd (isWord.characters '\'' List.mem_cons_self) (by decide)

theorem takes_identifier (isWord : IsWord word) (ends : EndsWord rest) :
    Takes identifier word rest (· = word) :=
  takes_whole (takeIdentifier_append isWord ends)

/-- **A key is taken as a whole.** -/
theorem takes_key (isKey : KeyText name text) (ends : Ends text rest) :
    Takes Grammar.key text rest (· = name) := by
  refine .named ?_
  cases isKey with
  | bare isWord =>
    exact (refuses_quotedString isWord.head_ne_quote).orElse
      (takes_identifier isWord (ends.endsWord isWord.nonempty isWord.characters))
  | quoted quoted => exact (takes_quotedString quoted rest).orElse identifier

/-! ### Words of the language -/

/-- A word of the language is taken where it is the whole word in front. -/
theorem takes_word {construct : Construct} (characters : ∀ c ∈ word, isWordCharacter c = true)
    (ends : EndsWord rest) : Takes (whole construct (takeWord word)) word rest (· = ()) := by
  have front : wordOf (word ++ rest) = word :=
    (wordOf_append ends word).trans (List.takeWhile_eq_self_iff.mpr characters)
  refine takes_whole ?_
  rw [takeWord_eq characters, if_pos front]

/-- A word of the language is refused where another word, or none, stands in front. -/
theorem refuses_word {construct : Construct} (characters : ∀ c ∈ word, isWordCharacter c = true)
    (other : wordOf text ≠ word) : Refuses (whole construct (takeWord word)) text :=
  refuses_whole (by rw [takeWord_eq characters, if_neg other])

/-- The word in front begins as the text does. -/
theorem wordOf_ne {first : Char} (other : ∀ c ∈ text.head?, c ≠ first) (word : List Char) :
    wordOf text ≠ first :: word := by
  intro same
  cases text with
  | nil => cases same
  | cons c text =>
    unfold wordOf at same
    rw [List.takeWhile_cons] at same
    split at same
    · exact other c rfl (List.cons.inj same).1
    · cases same

theorem wordOf_eq_nil (ends : EndsWord text) : wordOf text = [] := wordOf_append ends []

theorem endsWord_quote (text : List Char) : EndsWord ('\'' :: text) := endsWord_cons (by decide)

/-! ### Numbers -/

/-- The text is one number of the grammar, and what it writes is finite. -/
structure NumberText (number : Double) (text : List Char) : Prop where
  whole : takeNumber text = some (text, text.length)
  reads : Double.read text = some number
  finite : number.isFinite = true

theorem takeNumber_of_endsWord (ends : EndsWord text) : takeNumber text = none :=
  (takeNumber_append ends []).trans rfl

/-- A number begins with a digit or a minus sign. -/
theorem exists_cons_of_takeNumber {read : List Char × Nat} (taken : takeNumber text = some read) :
    ∃ c rest, text = c :: rest ∧ (c = '-' ∨ c.isDigit = true) := by
  cases text with
  | nil => cases taken
  | cons c rest =>
    refine ⟨c, rest, rfl, or_iff_not_imp_left.mpr fun noSign => ?_⟩
    by_contra noDigit
    have none' : (c :: rest).takeWhile Char.isDigit = [] := List.takeWhile_cons_of_neg noDigit
    simp [takeNumber, noSign, none'] at taken

theorem beginsWord_of_takeNumber {read : List Char × Nat} (taken : takeNumber text = some read) :
    BeginsWord text := by
  obtain ⟨c, rest, rfl, minus | digit⟩ := exists_cons_of_takeNumber taken
  · rw [minus]
    exact ⟨'-', rest, rfl, .inl (by decide)⟩
  · exact ⟨c, rest, rfl, .inl (isWordCharacter_of_isDigit digit)⟩

/-- No word of the language stands where a number does. -/
theorem wordOf_ne_of_takeNumber {read : List Char × Nat} (taken : takeNumber text = some read)
    {first : Char} (noSign : first ≠ '-') (noDigit : first.isDigit = false) (word : List Char) :
    wordOf text ≠ first :: word := by
  refine wordOf_ne ?_ word
  obtain ⟨c, rest, rfl, minus | digit⟩ := exists_cons_of_takeNumber taken
  · rintro _ ⟨⟩ rfl
    exact noSign minus
  · rintro _ ⟨⟩ rfl
    rw [noDigit] at digit
    cases digit

/-! ### Values -/

/-- The texts that write a value. A word that is no number and no Boolean is a text. -/
inductive ValueText : Value → List Char → Prop where
  | boolean (value : Bool) : ValueText (.boolean value) (Value.booleanText value).toList
  | number {number : Double} {text : List Char} (isNumber : NumberText number text) :
      ValueText (.number number) text
  | quoted {content body : List Char} (quoted : QuotedAs content body) :
      ValueText (.string (String.ofList content)) ('\'' :: (body ++ ['\'']))
  | bare {word : List Char} (isWord : IsWord word) (noNumber : takeNumber word = none)
      (noBoolean : ∀ value, word ≠ (Value.booleanText value).toList) :
      ValueText (.string (String.ofList word)) word

theorem ValueText.beginsWord (text' : ValueText value text) : BeginsWord text := by
  cases text' with
  | boolean value => cases value <;> exact ⟨_, _, rfl, .inl (by decide)⟩
  | number isNumber => exact beginsWord_of_takeNumber isNumber.whole
  | quoted => exact ⟨_, _, rfl, .inr rfl⟩
  | bare isWord => exact isWord.beginsWord

theorem booleanText_characters (value : Bool) :
    ∀ c ∈ (Value.booleanText value).toList, isWordCharacter c = true := by
  cases value <;> decide

theorem takes_number (taken : takeNumber text = some (text, text.length)) (ends : EndsWord rest) :
    Takes number text rest fun written => ∃ extent, written = .number text extent := by
  have whole : takeNumber (text ++ rest) = some (text, text.length) :=
    (takeNumber_append ends text).trans taken
  refine (takes_position (text ++ rest)).bind fun first _ => ?_
  refine (takes_whole whole).bind_nil fun digits (same : digits = text) => ?_
  refine (takes_position rest).bind_nil fun last _ => ?_
  exact takes_pure ⟨⟨first, last⟩, by rw [same]⟩ rest

theorem refuses_number (none' : takeNumber text = none) : Refuses number text := by
  intro position
  simp only [number, result_bind, result_position, result_whole, Option.bind_some, none',
    Option.map_none, Option.bind_none]

/-- Where no Boolean stands in front, the forms behind these are tried. -/
theorem takes_value_of_noBoolean {good : WrittenValue → Prop}
    (noTrue : wordOf (text ++ rest) ≠ "true".toList)
    (noFalse : wordOf (text ++ rest) ≠ "false".toList)
    (takes : Takes (firstOf [number, (do return .string (← quotedString)),
      (do return .string (← identifier))]) text rest good) : Takes Grammar.value text rest good :=
  .named (((refuses_word (booleanText_characters true) noTrue).bind _).firstOf
    (((refuses_word (booleanText_characters false) noFalse).bind _).firstOf takes))

/-- A number is taken as a value, whether or not what it writes is finite. -/
theorem takes_value_of_number (taken : takeNumber text = some (text, text.length))
    (ends : EndsWord rest) :
    Takes Grammar.value text rest fun written => ∃ extent, written = .number text extent := by
  have front := (takeNumber_append ends text).trans taken
  exact takes_value_of_noBoolean (wordOf_ne_of_takeNumber front (by decide) (by decide) _)
    (wordOf_ne_of_takeNumber front (by decide) (by decide) _) (.firstOf (takes_number taken ends) _)

/-- **A value is taken as a whole, and what is read builds it.** -/
theorem takes_value (isValue : ValueText value text) (ends : EndsWord rest) :
    Takes Grammar.value text rest fun written => ∀ source, written.build source = .ok value := by
  cases isValue with
  | boolean value =>
    cases value with
    | true =>
      exact .named (.firstOf ((takes_word (booleanText_characters true) ends).map fun _ _ _ => rfl) _)
    | false =>
      have other : wordOf ("false".toList ++ rest) ≠ "true".toList := by
        rw [wordOf_append ends]
        decide
      exact .named (((refuses_word (booleanText_characters true) other).bind _).firstOf
        (.firstOf ((takes_word (booleanText_characters false) ends).map fun _ _ _ => rfl) _))
  | number isNumber =>
    refine (takes_value_of_number isNumber.whole ends).mono ?_
    rintro _ ⟨extent, rfl⟩ source
    simp only [WrittenValue.build, isNumber.reads, Option.filter_some, isNumber.finite, if_true]
  | @quoted content body quoted =>
    have noWord : EndsWord ('\'' :: (body ++ ['\'']) ++ rest) := endsWord_quote _
    have empty := wordOf_eq_nil noWord
    refine takes_value_of_noBoolean (by rw [empty]; decide) (by rw [empty]; decide) ?_
    refine (refuses_number (takeNumber_of_endsWord noWord)).firstOf (.firstOf ?_ _)
    exact (takes_quotedString quoted rest).map fun _ same _ => by rw [same]; rfl
  | bare isWord noNumber noBoolean =>
    have front : wordOf (text ++ rest) = text := (wordOf_append ends text).trans isWord.wordOf_eq
    refine takes_value_of_noBoolean (by rw [front]; exact noBoolean true)
      (by rw [front]; exact noBoolean false) ?_
    refine (refuses_number ((takeNumber_append ends text).trans noNumber)).firstOf ?_
    refine ((refuses_quotedString isWord.head_ne_quote).bind _).firstOf (.firstOf ?_ _)
    exact (takes_identifier isWord ends).map fun _ same _ => by rw [same]; rfl

/-! ### Operators -/

/-- The texts that write an operator. -/
inductive OperatorText : Operator → List Char → Prop where
  | equal : OperatorText .equal "==".toList
  | strictEqual : OperatorText .equal "===".toList
  | differ : OperatorText .differ "!=".toList
  | strictDiffer : OperatorText .differ "!==".toList
  | ordered (comparison : Comparison) :
      OperatorText (.ordered comparison) comparison.symbol.toList

/-- What an operator begins with. -/
theorem OperatorText.head_mem (text' : OperatorText operator text) :
    ∃ c rest, text = c :: rest ∧ c ∈ "=!<>".toList := by
  cases text' with
  | ordered comparison => cases comparison <;> exact ⟨_, _, rfl, by decide⟩
  | _ => exact ⟨_, _, rfl, by decide⟩

theorem OperatorText.nonempty (text' : OperatorText operator text) : text ≠ [] := by
  obtain ⟨c, rest, rfl, -⟩ := text'.head_mem
  exact List.cons_ne_nil c rest

theorem OperatorText.settled (text' : OperatorText operator text) (rest : List Char) :
    Settled (text ++ rest) := by
  obtain ⟨c, tail, rfl, mark⟩ := text'.head_mem
  have settled : ∀ c ∈ "=!<>".toList, isGap c = false := by decide
  exact settled_cons (settled c mark)

/-- An operator does not begin as something else does. -/
theorem OperatorText.head_ne (text' : OperatorText operator text) {first : Char}
    (other : first ∉ "=!<>".toList) : ∀ c ∈ (text ++ rest).head?, c ≠ first := by
  obtain ⟨c, tail, rfl, mark⟩ := text'.head_mem
  rintro _ ⟨⟩ rfl
  exact other mark

/-- No operator is the mark of a pattern test. -/
theorem OperatorText.noPatternMark (text' : OperatorText operator text) :
    ['=', '~'].isPrefixOf (text ++ rest) = false := by
  cases text' with
  | ordered comparison => cases comparison <;> rfl
  | _ => rfl

theorem result_operatorMark (construct : Construct) (mark : String) (operator : Operator)
    (position : Nat) (text : List Char) :
    (operatorMark construct mark operator ⟨position, text⟩).result =
      if mark.toList.isPrefixOf text then
        some (operator, (⟨position, text⟩ : Cursor).advance mark.toList.length)
      else none := by
  rw [operatorMark, result_named, result_bind, result_mark]
  split <;> rfl

/-- **An operator is taken as a whole, unless it could go on with a `=`.** -/
theorem takes_operator (isOperator : OperatorText operator text)
    (ends : ∀ c ∈ rest.head?, c ≠ '=') : Takes Grammar.operator text rest (· = operator) := by
  have noMore : ∀ more : List Char, ('=' :: more).isPrefixOf rest = false := by
    intro more
    cases rest with
    | nil => rfl
    | cons c rest =>
      have other : ('=' == c) = false := beq_false_of_ne (ends c rfl).symm
      rw [List.isPrefixOf, other, Bool.false_and]
  refine .named fun position => ⟨operator, ?_, rfl⟩
  simp only [firstOf, List.foldr, result_orElse, result_operatorMark]
  cases isOperator with
  | ordered comparison =>
    cases comparison <;>
      simp [Comparison.symbol, List.isPrefixOf, noMore, Cursor.advance]
  | _ => simp [List.isPrefixOf, noMore, Cursor.advance]

/-- Nothing that begins otherwise is an operator. -/
theorem refuses_operator (other : ∀ c ∈ text.head?, c ∉ "=!<>".toList) :
    Refuses Grammar.operator text := by
  refine .named fun position => ?_
  simp only [firstOf, List.foldr, result_orElse, result_operatorMark]
  cases text with
  | nil => rfl
  | cons c text =>
    have differ := other c rfl
    simp at differ
    obtain ⟨equal, bang, less, greater⟩ := differ
    simp [List.isPrefixOf, Ne.symm equal, Ne.symm bang, Ne.symm less, Ne.symm greater]

/-! ### Pattern literals -/

/-- Whether every class `[…]` of a pattern source is closed within it, seen from within a class or
not. A backslash takes the next character with it. -/
def closesClasses (inClass : Bool) : List Char → Bool
  | [] => !inClass
  | '\\' :: _ :: rest => closesClasses inClass rest
  | c :: rest => closesClasses (if inClass then c != ']' else c == '[') rest

/-- Whether a source ends in a backslash that takes no character with it. -/
def endsInBackslash : List Char → Bool
  | [] => false
  | ['\\'] => true
  | '\\' :: _ :: rest => endsInBackslash rest
  | _ :: rest => endsInBackslash rest

theorem closesClass_cons {c : Char} (noEscape : c ≠ '\\') (rest : List Char) :
    closesClass (c :: rest) = (c == ']' || closesClass rest) := by
  rw [closesClass]
  exact fun _ _ same => absurd same noEscape

theorem closesClasses_cons {c : Char} (noEscape : c ≠ '\\') (inClass : Bool) (rest : List Char) :
    closesClasses inClass (c :: rest) =
      closesClasses (if inClass then c != ']' else c == '[') rest := by
  rw [closesClasses]
  exact fun _ _ same => absurd same noEscape

theorem endsInBackslash_cons {c : Char} (noEscape : c ≠ '\\') (rest : List Char) :
    endsInBackslash (c :: rest) = endsInBackslash rest := by
  rw [endsInBackslash]
  · exact fun same => absurd same noEscape
  · exact fun _ _ same => absurd same noEscape

theorem splitSourceFrom_cons {c : Char} (noEscape : c ≠ '\\') (before : List Char) (inClass : Bool)
    (rest : List Char) :
    splitSourceFrom before inClass (c :: rest) =
      if inClass then splitSourceFrom (c :: before) (c != ']') rest
      else if c = '/' ∨ c = '\n' ∨ c = '\r' then (before.reverse, c :: rest)
      else splitSourceFrom (c :: before) (c == '[' && closesClass rest) rest := by
  rw [splitSourceFrom]
  exact fun _ _ same => absurd same noEscape

/-- A source ends in an open backslash, or it is empty, begins with an escape, or with some other
character. -/
theorem source_cases {motive : List Char → Prop} (nil : motive [])
    (open' : motive ['\\']) (escape : ∀ escaped rest, motive rest → motive ('\\' :: escaped :: rest))
    (other : ∀ c rest, c ≠ '\\' → motive rest → motive (c :: rest)) : ∀ source, motive source
  | [] => nil
  | ['\\'] => open'
  | '\\' :: escaped :: rest => escape escaped rest (source_cases nil open' escape other rest)
  | c :: rest =>
    if same : c = '\\' then by
      subst same
      cases rest with
      | nil => exact open'
      | cons escaped rest => exact escape escaped rest (source_cases nil open' escape other rest)
    else other c rest same (source_cases nil open' escape other rest)

/-- A class that is closed stays closed, whatever follows. -/
theorem closesClass_append (closed : closesClass source = true) (rest : List Char) :
    closesClass (source ++ rest) = true := by
  induction source using source_cases with
  | nil => cases closed
  | open' => cases closed
  | escape escaped source ih =>
    rw [closesClass] at closed
    rw [List.cons_append, List.cons_append, closesClass]
    exact ih closed
  | other c source noEscape ih =>
    rw [closesClass_cons noEscape, Bool.or_eq_true] at closed
    rw [List.cons_append, closesClass_cons noEscape, Bool.or_eq_true]
    exact closed.imp_right ih

theorem closesClass_of_closesClasses (closed : closesClasses true source = true) :
    closesClass source = true := by
  induction source using source_cases with
  | nil => cases closed
  | open' => cases closed
  | escape escaped source ih =>
    rw [closesClasses] at closed
    rw [closesClass]
    exact ih closed
  | other c source noEscape ih =>
    rw [closesClasses_cons noEscape, if_pos rfl] at closed
    rw [closesClass_cons noEscape]
    by_cases close : c = ']'
    · simp [close]
    · rw [bne_iff_ne.mpr close] at closed
      rw [ih closed, Bool.or_true]

/-- What a source goes on with, within a class or not: its classes are closed, outside of them it has
no slash and no line end, and no backslash stands alone at its end. -/
inductive SourceRest : Bool → List Char → Prop where
  | done : SourceRest false []
  | escape {inClass : Bool} {escaped : Char} {rest : List Char} (more : SourceRest inClass rest) :
      SourceRest inClass ('\\' :: escaped :: rest)
  | other {inClass : Bool} {c : Char} {rest : List Char} (noEscape : c ≠ '\\')
      (noEnd : inClass = false → ¬(c = '/' ∨ c = '\n' ∨ c = '\r'))
      (more : SourceRest (if inClass then c != ']' else c == '[') rest) :
      SourceRest inClass (c :: rest)

/-- A source that the grammar takes as a whole, with its classes closed. -/
theorem sourceRest_of_whole {before : List Char} {inClass : Bool}
    (whole : (splitSourceFrom before inClass source).1 = before.reverse ++ source)
    (closed : closesClasses inClass source = true) (sealed : endsInBackslash source = false) :
    SourceRest inClass source := by
  induction source using source_cases generalizing before inClass with
  | nil =>
    cases inClass with
    | true => cases closed
    | false => exact .done
  | open' => cases sealed
  | escape escaped source ih =>
    rw [splitSourceFrom] at whole
    rw [closesClasses] at closed
    rw [endsInBackslash] at sealed
    exact .escape (@ih (escaped :: '\\' :: before) inClass (by rw [whole]; simp) closed sealed)
  | other c source noEscape ih =>
    rw [splitSourceFrom_cons noEscape] at whole
    rw [closesClasses_cons noEscape] at closed
    rw [endsInBackslash_cons noEscape] at sealed
    have noEnd : inClass = false → ¬(c = '/' ∨ c = '\n' ∨ c = '\r') := by
      rintro rfl ends
      rw [if_neg Bool.false_ne_true, if_pos ends] at whole
      exact absurd whole (by simp)
    refine .other noEscape noEnd (@ih (c :: before) _ ?_ closed sealed)
    cases inClass with
    | true =>
      rw [if_pos rfl] at whole ⊢
      rw [whole]
      simp
    | false =>
      rw [if_neg Bool.false_ne_true] at closed
      rw [if_neg Bool.false_ne_true, if_neg (noEnd rfl)] at whole
      have bracket : (c == '[' && closesClass source) = (c == '[') := by
        cases opens : c == '[' with
        | false => rfl
        | true =>
          rw [opens] at closed
          rw [closesClass_of_closesClasses closed, Bool.and_true]
      rw [bracket] at whole
      rw [if_neg Bool.false_ne_true, whole]
      simp

theorem SourceRest.closesClass {inClass : Bool} (more : SourceRest inClass source)
    (within : inClass = true) : closesClass source = true := by
  induction more with
  | done => cases within
  | escape _ ih =>
    rw [Grammar.closesClass]
    exact ih within
  | @other inClass c rest noEscape _ _ ih =>
    rw [closesClass_cons noEscape, Bool.or_eq_true]
    subst within
    rw [if_pos rfl, bne_iff_ne] at ih
    exact (em (c = ']')).imp beq_iff_eq.mpr ih

theorem splitSourceFrom_append {inClass : Bool} (more : SourceRest inClass source)
    (before rest : List Char) :
    splitSourceFrom before inClass (source ++ '/' :: rest) =
      (before.reverse ++ source, '/' :: rest) := by
  induction more generalizing before with
  | done => simp [splitSourceFrom_cons]
  | escape _ ih =>
    rw [List.cons_append, List.cons_append, splitSourceFrom, ih]
    simp
  | @other inClass c source noEscape noEnd more ih =>
    rw [List.cons_append, splitSourceFrom_cons noEscape]
    cases inClass with
    | true =>
      rw [if_pos rfl] at ih ⊢
      rw [ih]
      simp
    | false =>
      -- a bracket that is closed within the source is also closed before the slash
      have bracket : (c == '[' && Grammar.closesClass (source ++ '/' :: rest)) = (c == '[') := by
        cases opens : c == '[' with
        | false => rfl
        | true => rw [closesClass_append (more.closesClass opens), Bool.and_true]
      rw [if_neg Bool.false_ne_true] at ih ⊢
      rw [if_neg (noEnd rfl), bracket, ih]
      simp

theorem eq_of_takeSource {taken : List Char × Nat} (run : takeSource text = some taken) :
    taken = ((splitSource text).1, (splitSource text).1.length) ∧
      (splitSource text).1.isEmpty = false := by
  unfold takeSource at run
  dsimp only at run
  split at run
  · cases run
  · rename_i some'
    exact ⟨(Option.some.inj run).symm, Bool.eq_false_iff.mpr some'⟩

/-- **A source ends at the slash behind it.** -/
theorem takeSource_append (whole : takeSource source = some (source, source.length))
    (more : SourceRest false source) (rest : List Char) :
    takeSource (source ++ '/' :: rest) = some (source, source.length) := by
  obtain ⟨same, some'⟩ := eq_of_takeSource whole
  rw [← (Prod.mk.inj same).1] at some'
  have split : splitSource (source ++ '/' :: rest) = (source, '/' :: rest) :=
    splitSourceFrom_append more [] rest
  unfold takeSource
  rw [split]
  simp only [some', Bool.false_eq_true, if_false]

theorem sourceRest (whole : takeSource source = some (source, source.length))
    (closed : closesClasses false source = true) (sealed : endsInBackslash source = false) :
    SourceRest false source :=
  @sourceRest_of_whole _ [] _ (Prod.mk.inj (eq_of_takeSource whole).1).1.symm closed sealed

variable [PatternEngine] {pattern : PatternLiteral}

/-- The texts that write a pattern literal. The grammar takes the whole source for a source, every
class of it is closed, and no backslash at its end takes the closing slash with it. -/
inductive PatternText : PatternLiteral → List Char → Prop where
  | intro {pattern : PatternLiteral} {source flags : List Char}
      (made : PatternLiteral.ofSource (String.ofList source) flags = .ok pattern)
      (whole : takeSource source = some (source, source.length))
      (closed : closesClasses false source = true) (sealed : endsInBackslash source = false) :
      PatternText pattern ('/' :: source ++ '/' :: flags)

theorem PatternText.settled (text' : PatternText pattern text) (rest : List Char) :
    Settled (text ++ rest) := by
  cases text'
  exact settled_cons (by decide)

/-- What makes a pattern literal: a source with something in it, and accepted flags. The literal
holds the source as it is, and the flags that are kept. -/
theorem ofSource_eq_ok {source : String} :
    PatternLiteral.ofSource source flags = .ok pattern ↔ source.isEmpty = false ∧
      (∀ flag ∈ flags, flag ∈ acceptedFlags) ∧ pattern.source = source ∧
        pattern.flags = canonicalFlags flags := by
  have accepted : flags.find? (!acceptedFlags.contains ·) = none ↔
      ∀ flag ∈ flags, flag ∈ acceptedFlags := by
    rw [List.find?_eq_none]
    simp
  unfold PatternLiteral.ofSource
  constructor
  · intro made
    split at made
    · cases made
    rename_i some'
    split at made
    · cases made
    rename_i noOther
    dsimp only at made
    split at made
    · cases made
      exact ⟨Bool.eq_false_iff.mpr some', accepted.mp noOther, rfl, rfl⟩
    · cases made
  · rintro ⟨some', all', rfl, flags'⟩
    rw [if_neg (Bool.eq_false_iff.mp some'), accepted.mpr all']
    dsimp only
    split
    · refine congrArg Except.ok (PatternLiteral.eq_of_beq ?_)
      simp [BEq.beq, flags']
    · rename_i none'
      rw [← flags', pattern.compiles] at none'
      cases none'

/-- The flags of a pattern literal are letters. -/
theorem isAlpha_of_ofSource {source : String}
    (made : PatternLiteral.ofSource source flags = .ok pattern) :
    ∀ flag ∈ flags, flag.isAlpha = true := by
  have letters : ∀ flag ∈ acceptedFlags, flag.isAlpha = true := by decide
  obtain ⟨-, accepted, -, -⟩ := ofSource_eq_ok.mp made
  exact fun flag member => letters flag (accepted flag member)

/-- A pattern literal is taken as a whole if its source is. -/
theorem takes_patternLiteral_of_takeSource
    (made : PatternLiteral.ofSource (String.ofList source) flags = .ok pattern)
    (taken : takeSource (source ++ '/' :: (flags ++ rest)) = some (source, source.length))
    (ends : EndsWord rest) : Takes patternLiteral ('/' :: source ++ '/' :: flags) rest fun read =>
      PatternLiteral.ofSource (String.ofList read.1) read.2.1 = .ok pattern := by
  have takesFlags : takeFlags (flags ++ rest) = some (flags, flags.length) := by
    unfold takeFlags
    rw [takeWhile_append_of_endsWord (fun _ => isWordCharacter_of_isAlpha) ends,
      List.takeWhile_eq_self_iff.mpr (isAlpha_of_ofSource made)]
  have takesSource : takeSource (source ++ (['/'] ++ flags ++ rest)) = some (source, source.length) :=
    taken
  have shape : '/' :: source ++ '/' :: flags = [] ++ (['/'] ++ (source ++ (['/'] ++ flags))) := by
    simp
  rw [shape]
  refine .named ((takes_position _).bind fun first _ => (takes_mark ['/'] _).bind fun _ _ => ?_)
  refine (takes_whole takesSource).bind fun source' same => (takes_mark ['/'] _).bind fun _ _ => ?_
  refine (takes_whole takesFlags).bind_nil fun flags' same' => ?_
  refine (takes_position rest).bind_nil fun last _ => takes_pure ?_ rest
  rw [same, same']
  exact made

/-- **A pattern literal is taken as a whole.** -/
theorem takes_patternLiteral (isPattern : PatternText pattern text) (ends : EndsWord rest) :
    Takes patternLiteral text rest fun read =>
      PatternLiteral.ofSource (String.ofList read.1) read.2.1 = .ok pattern := by
  cases isPattern with
  | @intro source flags made whole closed sealed =>
    have taken := takeSource_append whole (sourceRest whole closed sealed) (flags ++ rest)
    exact takes_patternLiteral_of_takeSource made taken ends

end WhenClause.Grammar

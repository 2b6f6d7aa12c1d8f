/-
**Words and numbers in front of a text.**

What the grammar takes off the front of a text as a word or a number does not depend on what stands
behind, as long as that does not begin with another word character (`EndsWord`).

* `takeIdentifier_append`: an identifier is taken as a whole;
* `takeWord_eq`: a word of the language is taken exactly if it is the whole word in front;
* `takeNumber_append`: whether a number stands in front is decided by the text up to the end of the
  word.
-/

import Mathlib.Data.List.TakeWhile
import WhenClause.Proofs.ReaderResult

namespace WhenClause.Grammar

variable {word text rest gap : List Char}

/-! ### Between tokens -/

/-- Only characters that may stand between tokens. -/
def Gap (text : List Char) : Prop := ∀ c ∈ text, isGap c = true

theorem gap_nil : Gap [] := List.forall_mem_nil _

/-- A word ends here: no word character stands in front. -/
def EndsWord (rest : List Char) : Prop := ∀ c ∈ rest.head?, isWordCharacter c = false

theorem isWordCharacter_of_isGap {c : Char} (gap : isGap c = true) : isWordCharacter c = false := by
  simp [isWordCharacter, gap]

theorem isGap_of_isWordCharacter {c : Char} (inWord : isWordCharacter c = true) :
    isGap c = false := by
  cases gap : isGap c with
  | false => rfl
  | true =>
    rw [isWordCharacter_of_isGap gap] at inWord
    cases inWord

theorem endsWord_nil : EndsWord [] := nofun

theorem endsWord_cons {c : Char} (ends : isWordCharacter c = false) : EndsWord (c :: rest) := by
  rintro _ ⟨⟩
  exact ends

theorem EndsWord.any_eq_false (ends : EndsWord rest) :
    rest.head?.any isWordCharacter = false := by
  cases rest with
  | nil => rfl
  | cons c rest => exact ends c rfl

/-- Behind a gap no word goes on. -/
theorem Gap.endsWord (only : Gap gap) (ends : gap = [] → EndsWord rest) : EndsWord (gap ++ rest) := by
  cases gap with
  | nil => exact ends rfl
  | cons c gap => exact endsWord_cons (isWordCharacter_of_isGap (only c List.mem_cons_self))

/-- What no gap has does not stand in front if it does not stand behind the gap. -/
theorem Gap.head_ne (only : Gap gap) {mark : Char} (noGap : isGap mark = false)
    (other : ∀ c ∈ rest.head?, c ≠ mark) : ∀ c ∈ (gap ++ rest).head?, c ≠ mark := by
  cases gap with
  | nil => exact other
  | cons first gap =>
    rintro _ ⟨⟩ rfl
    rw [only _ List.mem_cons_self] at noGap
    cases noGap

theorem Gap.dropWhile_append (only : Gap gap) (rest : List Char) :
    (gap ++ rest).dropWhile isGap = rest.dropWhile isGap :=
  List.dropWhile_append_of_pos only

/-- A gap is skipped, whatever follows it. -/
theorem Gap.skipGap_append (only : Gap gap) (position : Nat) (rest : List Char) :
    (⟨position, gap ++ rest⟩ : Cursor).skipGap =
      (⟨position + gap.length, rest⟩ : Cursor).skipGap := by
  rw [Cursor.skipGap, List.takeWhile_append_of_pos only, List.length_append, Cursor.advance_add,
    Cursor.advance_append]
  rfl

/-- What stands behind a gap is reached by skipping it. -/
theorem Gap.skipGap_of_settled (only : Gap gap) (position : Nat) (settled : Settled rest) :
    (⟨position, gap ++ rest⟩ : Cursor).skipGap = ⟨position + gap.length, rest⟩ := by
  rw [only.skipGap_append, Cursor.skipGap_of_settled settled]

theorem takes_gap (only : Gap gap) (settled : Settled rest) :
    Takes Reader.gap gap rest fun _ => True :=
  fun position =>
    ⟨(), congrArg (fun cursor => some ((), cursor)) (only.skipGap_of_settled position settled), trivial⟩

/-! ### Words -/

/-- A word that can be an identifier. -/
structure IsWord (word : List Char) : Prop where
  nonempty : word ≠ []
  characters : ∀ c ∈ word, isWordCharacter c = true
  start : ∀ c ∈ word.head?, c ≠ '<' ∧ c ≠ '>'

/-- Taking while word characters last does not go beyond the end of a word. -/
theorem takeWhile_append_of_endsWord {p : Char → Bool}
    (narrow : ∀ c, p c = true → isWordCharacter c = true) (ends : EndsWord rest)
    (text : List Char) : (text ++ rest).takeWhile p = text.takeWhile p := by
  induction text with
  | nil =>
    cases rest with
    | nil => rfl
    | cons c rest =>
      refine List.takeWhile_cons_of_neg fun holds => ?_
      have := ends c rfl
      rw [narrow c holds] at this
      cases this
  | cons c text ih => rw [List.cons_append, List.takeWhile_cons, List.takeWhile_cons, ih]

theorem wordOf_append (ends : EndsWord rest) (text : List Char) :
    wordOf (text ++ rest) = wordOf text :=
  takeWhile_append_of_endsWord (fun _ holds => holds) ends text

theorem IsWord.wordOf_eq (isWord : IsWord word) : wordOf word = word :=
  List.takeWhile_eq_self_iff.mpr isWord.characters

/-- An identifier is the whole word in front of a text. -/
theorem takeIdentifier_append (isWord : IsWord word) (ends : EndsWord rest) :
    takeIdentifier (word ++ rest) = some (word, word.length) := by
  have front : wordOf (word ++ rest) = word := (wordOf_append ends word).trans isWord.wordOf_eq
  obtain ⟨c, tail, rfl⟩ := List.exists_cons_of_ne_nil isWord.nonempty
  obtain ⟨notLess, notGreater⟩ := isWord.start c rfl
  unfold takeIdentifier
  split
  · rename_i same
    exact absurd (List.cons.inj same).1 notLess
  · rename_i same
    exact absurd (List.cons.inj same).1 notGreater
  · rw [front]
    rfl

/-- A word of the language is taken exactly if it is the word in front. -/
theorem takeWord_eq (characters : ∀ c ∈ word, isWordCharacter c = true)
    (text : List Char) :
    takeWord word text = if wordOf text = word then some ((), word.length) else none := by
  unfold takeWord
  refine if_congr ?_ rfl rfl
  rw [List.isPrefixOf_iff_prefix]
  constructor
  · rintro ⟨⟨rest, rfl⟩, ends⟩
    rw [List.drop_left] at ends
    have ends' : EndsWord rest := by
      rintro c first
      rw [Option.mem_def.mp first] at ends
      simpa using ends
    rw [wordOf_append ends']
    exact List.takeWhile_eq_self_iff.mpr characters
  · intro same
    have parts : text = word ++ text.dropWhile isWordCharacter := by
      rw [← same]
      exact List.takeWhile_append_dropWhile.symm
    refine ⟨⟨_, parts.symm⟩, ?_⟩
    rw [parts, List.drop_left]
    have stop := List.head?_dropWhile_not isWordCharacter text
    cases first : (text.dropWhile isWordCharacter).head? with
    | none => rfl
    | some c =>
      rw [first] at stop
      simpa using stop

/-! ### Numbers -/

/-- The characters that are in no word. -/
theorem mem_of_isWordCharacter_eq_false {c : Char} (outside : isWordCharacter c = false) :
    c ∈ " \t\r\n()!&|='~".toList := by
  simp only [isWordCharacter, isGap, Bool.and_eq_false_iff, Bool.not_eq_false', Bool.or_eq_true,
    beq_iff_eq, List.contains_iff_mem] at outside
  rcases outside with (((rfl | rfl) | rfl) | rfl) | operator
  any_goals decide
  exact List.mem_append_right " \t\r\n".toList operator

theorem isWordCharacter_of_isDigit {c : Char} (digit : c.isDigit = true) :
    isWordCharacter c = true := by
  have none' : ∀ c ∈ " \t\r\n()!&|='~".toList, c.isDigit = false := by decide
  by_contra outside
  rw [none' c (mem_of_isWordCharacter_eq_false (Bool.eq_false_iff.mpr outside))] at digit
  cases digit

theorem isWordCharacter_of_isAlpha {c : Char} (letter : c.isAlpha = true) :
    isWordCharacter c = true := by
  have none' : ∀ c ∈ " \t\r\n()!&|='~".toList, c.isAlpha = false := by decide
  by_contra outside
  rw [none' c (mem_of_isWordCharacter_eq_false (Bool.eq_false_iff.mpr outside))] at letter
  cases letter

theorem takeWhile_isDigit_append (ends : EndsWord rest) (text : List Char) :
    (text ++ rest).takeWhile Char.isDigit = text.takeWhile Char.isDigit :=
  takeWhile_append_of_endsWord (fun _ => isWordCharacter_of_isDigit) ends text

theorem ne_of_endsWord {c d : Char} (ends : EndsWord (c :: rest))
    (inWord : isWordCharacter d = true) : c ≠ d := by
  rintro rfl
  rw [ends c rfl] at inWord
  cases inWord

/-- A sign in front is part of the text if it is not part of what ends the word. -/
theorem head?_append_eq (ends : EndsWord rest) {sign : Char} (inWord : isWordCharacter sign = true)
    (text : List Char) : ((text ++ rest).head? = some sign) = (text.head? = some sign) := by
  cases text with
  | cons c text => rfl
  | nil =>
    cases rest with
    | nil => rfl
    | cons c rest => simp [ne_of_endsWord ends inWord]

/-- The length of a sign that only a text with something in it can have. -/
theorem signLength_le {signed : Prop} [Decidable signed] (some' : signed → text ≠ []) :
    (if signed then 1 else 0) ≤ text.length := by
  split
  · rename_i holds
    exact List.length_pos_iff.mpr (some' holds)
  · exact Nat.zero_le _

theorem exponentSign_le (text : List Char) :
    (if text.head? = some '+' ∨ text.head? = some '-' then 1 else 0) ≤ text.length :=
  signLength_le (by rintro (signed | signed) rfl <;> cases signed)

/-- What does not depend on the rest of a text in front does not depend on it further behind. -/
theorem apply_drop_append {α : Type} {f : List Char → α} {length : Nat}
    (stable : ∀ text, f (text ++ rest) = f text) (within : length ≤ text.length) :
    f ((text ++ rest).drop length) = f (text.drop length) := by
  rw [List.drop_append_of_le_length within, stable]

theorem add_apply_drop_le {f : List Char → Nat} {length : Nat}
    (short : ∀ text, f text ≤ text.length) (within : length ≤ text.length) :
    length + f (text.drop length) ≤ text.length := by
  have := short (text.drop length)
  rw [List.length_drop] at this
  omega

theorem fractionLength_append (ends : EndsWord rest) (text : List Char) :
    fractionLength (text ++ rest) = fractionLength text := by
  cases text with
  | nil =>
    cases rest with
    | nil => rfl
    | cons c rest =>
      have other : c ≠ '.' := ne_of_endsWord ends (by decide)
      simp [fractionLength, other]
  | cons c text =>
    by_cases point : c = '.'
    · subst point
      simp only [List.cons_append, fractionLength, takeWhile_isDigit_append ends]
    · simp [fractionLength, point]

theorem exponentLength_append (ends : EndsWord rest) (text : List Char) :
    exponentLength (text ++ rest) = exponentLength text := by
  cases text with
  | nil =>
    cases rest with
    | nil => rfl
    | cons c rest =>
      have lower : c ≠ 'e' := ne_of_endsWord ends (by decide)
      have upper : c ≠ 'E' := ne_of_endsWord ends (by decide)
      simp [exponentLength, lower, upper]
  | cons mark text =>
    have plus := head?_append_eq ends (show isWordCharacter '+' = true by decide) text
    have minus := head?_append_eq ends (show isWordCharacter '-' = true by decide) text
    simp only [List.cons_append, exponentLength, plus, minus,
      apply_drop_append (takeWhile_isDigit_append ends) (exponentSign_le text)]

theorem length_takeWhile_le (p : Char → Bool) (text : List Char) :
    (text.takeWhile p).length ≤ text.length :=
  (List.takeWhile_sublist p).length_le

theorem fractionLength_le (text : List Char) : fractionLength text ≤ text.length := by
  unfold fractionLength
  split
  · rename_i rest
    have short := length_takeWhile_le Char.isDigit rest
    rw [List.length_cons]
    dsimp only
    split <;> omega
  · exact Nat.zero_le _

theorem exponentLength_le (text : List Char) : exponentLength text ≤ text.length := by
  cases text with
  | nil => exact Nat.zero_le _
  | cons mark rest =>
    have short := @add_apply_drop_le rest (fun text => (text.takeWhile Char.isDigit).length) _
      (length_takeWhile_le Char.isDigit) (exponentSign_le rest)
    simp only [exponentLength, List.length_cons]
    generalize (if rest.head? = some '+' ∨ rest.head? = some '-' then 1 else 0) = sign
      at short ⊢
    generalize ((rest.drop sign).takeWhile Char.isDigit) = digits at short ⊢
    by_cases marked : (mark = 'e' ∨ mark = 'E')
    · rw [if_pos marked]
      split <;> omega
    · rw [if_neg marked]
      exact Nat.zero_le _

/-- **A number ends where no word character follows.** Each part of it is found within the text, and
none of them depends on what stands behind the text. -/
theorem takeNumber_append (ends : EndsWord rest) (text : List Char) :
    takeNumber (text ++ rest) = takeNumber text := by
  unfold takeNumber
  have minus := head?_append_eq ends (show isWordCharacter '-' = true by decide) text
  have first : (if text.head? = some '-' then 1 else 0) ≤ text.length :=
    signLength_le (by rintro signed rfl; cases signed)
  simp only [minus]
  generalize (if text.head? = some '-' then 1 else 0) = sign at first ⊢
  simp only [apply_drop_append (takeWhile_isDigit_append ends) first]
  have second : sign + ((text.drop sign).takeWhile Char.isDigit).length ≤ text.length :=
    @add_apply_drop_le text (fun text => (text.takeWhile Char.isDigit).length) sign
      (length_takeWhile_le Char.isDigit) first
  generalize (text.drop sign).takeWhile Char.isDigit = digits at second ⊢
  simp only [apply_drop_append (fractionLength_append ends) second]
  have third := add_apply_drop_le fractionLength_le second
  generalize sign + digits.length + fractionLength _ = length at third ⊢
  simp only [apply_drop_append (exponentLength_append ends) third]
  have fourth := add_apply_drop_le exponentLength_le third
  generalize length + exponentLength _ = length at fourth ⊢
  have behind : ∀ text : List Char, (text ++ rest).head?.any isWordCharacter =
      text.head?.any isWordCharacter := by
    rintro (_ | ⟨c, text⟩)
    · exact ends.any_eq_false
    · rfl
  rw [List.take_append_of_le_length fourth, List.drop_append_of_le_length fourth, behind]

theorem eq_take_of_takeNumber {taken : List Char} {length : Nat}
    (run : takeNumber text = some (taken, length)) : taken = text.take length := by
  simp only [takeNumber, Option.ite_none_left_eq_some, Option.some.injEq, Prod.mk.injEq] at run
  obtain ⟨-, rfl, rfl⟩ := run
  rfl

theorem length_le_of_takeNumber {digits : List Char} {length : Nat}
    (run : takeNumber text = some (digits, length)) : length ≤ text.length := by
  simp only [takeNumber, Option.ite_none_left_eq_some, Option.some.injEq, Prod.mk.injEq] at run
  obtain ⟨-, -, rfl⟩ := run
  have sign : (if text.head? = some '-' then 1 else 0) ≤ text.length :=
    signLength_le (by rintro signed rfl; cases signed)
  have whole : _ + ((text.drop _).takeWhile Char.isDigit).length ≤ text.length :=
    @add_apply_drop_le text (fun text => (text.takeWhile Char.isDigit).length) _
      (length_takeWhile_le Char.isDigit) sign
  exact add_apply_drop_le exponentLength_le (add_apply_drop_le fractionLength_le whole)

end WhenClause.Grammar

/-
**Parsing a text that writes a sentence.**

`IsText` says that a whole text writes a sentence, perhaps with gaps around it. Within the limits on
length and nesting such a text is read, and its formula is built as far as the limit on clauses
allows.

* `parse_of_isText`: parsing it gives what the constructors, negation and joins make of the sentence,
  unless it takes too many clauses, which it does not under any limit that is great enough;
* `parse_refused`: two texts that are no text of a sentence, though they come close: a pattern source
  that takes the closing slash with it, and a key of blank characters that the grammar has no gap for.
-/

import WhenClause.Proofs.Meaning
import WhenClause.Proofs.Outline
import WhenClause.Proofs.Reading
import WhenClause.Regex.Engine

namespace WhenClause

open Expression Grammar

variable {text : List Char}

theorem Grammar.ValueText.isNaN {written : Value} (isValue : ValueText written text) :
    written.isNaN = false := by
  cases isValue with
  | number isNumber => exact Double.isNaN_of_isFinite isNumber.finite
  | _ => rfl

theorem trimBlanks_ne_nil {c : Char} (member : c ∈ text) (shown : isBlank c = false) :
    trimBlanks text ≠ [] := by
  intro empty
  have back : ∀ c ∈ text.dropWhile isBlank, isBlank c = true := by
    have none' := List.dropWhile_eq_nil_iff.mp (List.reverse_eq_nil_iff.mp empty)
    exact fun c member => none' c (List.mem_reverse.mpr member)
  have split := List.takeWhile_append_dropWhile (p := isBlank) (l := text)
  rw [← split, List.mem_append] at member
  rcases member with front | rest
  · rw [List.mem_takeWhile_imp front] at shown
    cases shown
  · rw [back c rest] at shown
    cases shown

section Engine

variable [PatternEngine]
variable {facts : Facts} {limits : Limits} {depth : Nat} {sentence : Sentence} {phrase : Phrase}
  {literal : Literal} {source : String}

namespace Grammar

/-! ### Expressions without NaN -/

/-- No test that a text writes names NaN. -/
theorem TestText.hasNaN (isTest : TestText literal text) : literal.hasNaN = false := by
  cases isTest with
  | @compare _ _ _ _ _ _ operator value _ _ _ _ _ isValue =>
    cases operator <;> exact isValue.isNaN
  | _ => rfl

/-- No test of a phrase names NaN. -/
def Phrase.NaNFree : Phrase → Prop
  | .primary sentence | .unary sentence | .joined _ sentence => sentence.NaNFree
  | .more _ sentences => Sentence.AllNaNFree sentences

theorem nanFree_negations (count : Nat) (nanFree : sentence.NaNFree) :
    (negations count sentence).NaNFree := by
  induction count with
  | zero => exact nanFree
  | succ count ih => exact ih

theorem Writes.nanFree (writes : Writes depth phrase text) : phrase.NaNFree := by
  induction writes with
  | constant => trivial
  | test isTest => exact isTest.hasNaN
  | group _ _ _ ih => exact ih
  | @unary _ count _ _ _ _ _ ih => exact nanFree_negations count ih
  | conjunct _ ih => exact ih
  | alternative _ ih => exact ih
  | join _ _ ih ih' => exact ⟨ih, ih'⟩
  | none => trivial
  | part _ _ _ _ ih ih' => exact ⟨ih, ih'⟩

/-! ### Whole texts -/

/-- The whole texts that write a sentence, with groups nested at most so deep. -/
inductive IsText (depth : Nat) (sentence : Sentence) : List Char → Prop where
  | intro {before text behind : List Char} (only : Gap before)
      (writes : Writes depth (.joined .any sentence) text) (only' : Gap behind) :
      IsText depth sentence (before ++ (text ++ behind))

theorem IsText.nestingDepth_le (isText : IsText depth sentence text) :
    nestingDepth text ≤ depth := by
  cases isText with
  | intro only writes only' => exact nestingDepth_of_writes only writes only'

theorem IsText.reads (isText : IsText depth sentence text) :
    ∃ formulas, read text = .ok (.any formulas) ∧ Reads depth formulas (.joined .any sentence) := by
  cases isText with
  | intro only writes only' => exact read_of_writes only writes only'

theorem IsText.nanFree (isText : IsText depth sentence text) : sentence.NaNFree := by
  cases isText with
  | intro _ writes _ => exact writes.nanFree

end Grammar

/-! ### Parsing -/

/-- A text within the limits on length and nesting, and not blank, is read, and what is read is
built. -/
theorem parse_eq_build {formula : Formula} (bytes : source.utf8ByteSize ≤ limits.expressionBytes)
    (nesting : nestingDepth source.toList ≤ limits.nestingDepth)
    (shown : ∃ c ∈ source.toList, isBlank c = false)
    (read : Grammar.read source.toList = .ok formula) :
    parse facts limits source = formula.build facts limits.clauses source.toList := by
  obtain ⟨c, member, noBlank⟩ := shown
  unfold parse
  dsimp only
  rw [if_neg (Nat.not_lt.mpr bytes), if_neg (Nat.not_lt.mpr nesting), if_neg, read]
  rw [List.isEmpty_iff]
  exact trimBlanks_ne_nil member noBlank

/-- **A text that writes a sentence is parsed to its expression.** Within the limits on length and
nesting, and if not all of it is blank, parsing gives what the constructors, negation and joins make
of the sentence, unless there are too many clauses. Under every limit that is great enough there are
not. -/
theorem parse_of_isText (isText : IsText depth sentence source.toList)
    (bytes : source.utf8ByteSize ≤ limits.expressionBytes)
    (nesting : depth ≤ limits.nestingDepth ∨ nestingDepth source.toList ≤ limits.nestingDepth)
    (shown : ∃ c ∈ source.toList, isBlank c = false) :
    ((∃ result, parse facts limits source = .ok result ∧
          (result == sentence.expression facts) = true) ∨
        ∃ error, parse facts limits source = .error (.ofTooManyClauses error)) ∧
      ∃ enough, ∀ clauses, enough ≤ clauses →
        ∃ result, parse facts { limits with clauses } source = .ok result ∧
          (result == sentence.expression facts) = true := by
  obtain ⟨formulas, read, reads⟩ := isText.reads
  have nesting' : nestingDepth source.toList ≤ limits.nestingDepth :=
    nesting.elim (isText.nestingDepth_le.trans ·) id
  have build : ∀ clauses, parse facts { limits with clauses } source =
      (Join.any.formula formulas).build facts clauses source.toList :=
    fun clauses => parse_eq_build bytes nesting' shown read
  -- without NaN, what is built is the same as the expression if it has the same value
  have same : ∀ {clauses result},
      (Join.any.formula formulas).build facts clauses source.toList = .ok result →
        (∀ assignment, result.value assignment = sentence.value facts assignment) →
          (result == sentence.expression facts) = true := by
    intro clauses result run holds
    refine beq_of_value_eq (kept_formed.formula trivial _ run) (built_expression facts _).formed
      (kept_nanFree.formula trivial _ run) (nanFree_expression facts _ isText.nanFree) ?_
    intro assignment
    rw [holds, value_expression facts _ isText.nanFree]
  have settles : ∀ clauses, Settles ((Join.any.formula formulas).build facts clauses source.toList)
      fun result => ∀ assignment, result.value assignment = sentence.value facts assignment := by
    intro clauses
    refine settles_build_of_buildAll ?_
    rcases settles_formula (reads.settles facts clauses source.toList) with
      ⟨results, run, holds⟩ | error
    · refine .inl ⟨results, run, ?_⟩
      rintro result rfl assignment
      exact (List.cons.inj (holds assignment)).1
    · exact .inr error
  have correct : ∀ clauses, Settles (parse facts { limits with clauses } source)
      fun result => (result == sentence.expression facts) = true := by
    intro clauses
    rw [build]
    rcases settles clauses with ⟨result, run, holds⟩ | error
    · exact .inl ⟨result, run, same run holds⟩
    · exact .inr error
  refine ⟨correct limits.clauses, ?_⟩
  obtain ⟨enough, results, run⟩ := formula_ends .any (reads.ends facts source.toList)
  rw [buildAll_singleton] at run
  obtain ⟨result, run, -⟩ := bind_eq_ok.mp run
  refine ⟨enough, fun clauses room => ?_⟩
  have run' := build_mono room _ run
  rcases correct clauses with good | ⟨error, failed⟩
  · exact good
  · rw [build, run'] at failed
    cases failed

end Engine

/-- The text `!(a || b == 'x') && n > 1` is parsed to what it says. -/
theorem parse_negated_group :
    ∃ enough, ∀ clauses, enough ≤ clauses →
      ∃ result, parse none { clauses } "!(a || b == 'x') && n > 1" = .ok result ∧
        (result ==
          conj [(disj [has none "a", equals none "b" (.string "x")]).negate none,
            compared "n" .greater (.number Double.one)]) = true := by
  have space : Gap [' '] := List.forall_mem_singleton.mpr rfl
  have key : ∀ c, isWordCharacter c = true → c ≠ '<' ∧ c ≠ '>' → KeyText [c] [c] :=
    fun c inWord start => .bare ⟨List.cons_ne_nil c [], by simpa using inWord, by simpa using start⟩
  have first : Writes 0 (.joined .any (.literal (.test (.has "a") true))) ['a'] :=
    (Writes.test (.has (key 'a' (by decide) (by decide)) (by decide))).joined_of_primary .any
  have second : Writes 0 (.joined .any (.literal (.test (.equals "b" (.string "x")) true)))
      "b == 'x'".toList :=
    (Writes.test (.compare (key 'b' (by decide) (by decide)) space (fun empty => nomatch empty)
      .equal space (.quoted (.plain (by decide) .nil)))).joined_of_primary .any
  have third : Writes 1 (.joined .all (.literal (.ordered "n" .greater (.number Double.one))))
      "n > 1".toList :=
    (Writes.test (.compare (key 'n' (by decide) (by decide)) space (fun empty => nomatch empty)
      (.ordered .greater) space (.number ⟨by decide, by decide +kernel, by decide⟩))).joined_of_primary
        .all
  have group := Writes.group gap_nil (.join first (.part space space second .none)) gap_nil
  have isText : IsText 1 (.joined .all [.negation (.joined .any [.literal (.test (.has "a") true),
      .literal (.test (.equals "b" (.string "x")) true)]),
        .literal (.ordered "n" .greater (.number Double.one))])
      "!(a || b == 'x') && n > 1".toList :=
    .intro gap_nil (.alternative (.join (.conjunct (.unary (.mark gap_nil .none) group))
      (.part space space third .none))) gap_nil
  exact (@parse_of_isText _ none {} 1 _ _ isText (by decide) (.inl (by decide))
    ⟨'!', by decide, by decide⟩).2

/-- The source `(?x)#\` compiles and the grammar takes all of it, but before a slash its backslash
takes the slash with it. A key of one no-break space is a text that writes the test of this key, but
it is blank. -/
theorem parse_refused :
    (∃ pattern, PatternLiteral.ofSource "(?x)#\\" [] = .ok pattern ∧
      takeSource "(?x)#\\".toList = some ("(?x)#\\".toList, "(?x)#\\".length) ∧
      closesClasses false "(?x)#\\".toList = true ∧
      ∀ result, parse none {} "k =~ /(?x)#\\/" ≠ .ok result) ∧
    IsText 0 (.literal (.test (.has "\u00a0") true)) "\u00a0".toList ∧
      ∀ result, parse none {} "\u00a0" ≠ .ok result := by
  have noPattern : (parse none {} "k =~ /(?x)#\\/").toOption.isSome = false := by decide +kernel
  have blank : (parse none {} "\u00a0").toOption.isSome = false := by decide +kernel
  have compiles : (PatternLiteral.ofSource "(?x)#\\" []).toOption.isSome = true := by
    decide +kernel
  have isWord : IsWord ['\u00a0'] := ⟨by decide, by decide, by decide⟩
  refine ⟨?_, ?_, fun result parsed => ?_⟩
  · cases made : PatternLiteral.ofSource "(?x)#\\" [] with
    | error cause =>
      rw [made] at compiles
      cases compiles
    | ok pattern =>
      refine ⟨pattern, rfl, by decide, by decide, fun result parsed => ?_⟩
      rw [parsed] at noPattern
      cases noPattern
  · exact @IsText.intro _ _ _ [] _ [] gap_nil
      ((Writes.test (.has (.bare isWord) (by decide))).joined_of_primary .any) gap_nil
  · rw [parsed] at blank
    cases blank

end WhenClause

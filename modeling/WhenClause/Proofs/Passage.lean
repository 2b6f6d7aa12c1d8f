/-
**Readers and the text that the scan of the outline passes.**

Whatever a token other than a pattern literal reads, the scan of the outline passes it: from plain
text to plain text, with as many parentheses open. So what is asserted of the text in front can be
carried over such a token if it can be carried over any text that is passed. Each assertion that
follows the scan along with the grammar is of this kind, and has to look into pattern literals and
groups only.

* `Steady`: readers over which every such assertion is carried;
* `alike_patternTest`: what an assertion has to bear on the way through a pattern test;
* `alike_test`: then it is carried over every test.
-/

import WhenClause.Proofs.Assertion
import WhenClause.Proofs.Outline

namespace WhenClause.Grammar

open Reader

variable {text rest : List Char} {assertion matched within behind : List Char → Prop} {α : Type}

/-- An assertion that is carried over every text that the scan passes. -/
def Carried (assertion : List Char → Prop) : Prop :=
  ∀ text rest, Passes text → assertion (text ++ rest) → assertion rest

/-- A reader over which every such assertion is carried. -/
abbrev Steady (reader : Reader α) : Prop :=
  ∀ assertion, Carried assertion → Alike assertion reader reader assertion

/-! ### Tokens -/

theorem steady_whole {construct : Construct} {take : List Char → Option (α × Nat)}
    (passes : ∀ text value length, take text = some (value, length) → Passes (text.take length)) :
    Steady (whole construct take) :=
  fun _ carried => alike_whole fun text value length holds taken =>
    carried (text.take length) (text.drop length) (passes text value length taken)
      (by rwa [List.take_append_drop])

theorem steady_mark (passes : Passes text) : Steady (mark text) :=
  fun _ carried => alike_mark fun rest => carried text rest passes

theorem steady_gap : Steady gap :=
  fun _ carried => alike_gap fun text rest only => carried text rest only.passes

theorem wordOf_characters (text : List Char) : ∀ c ∈ wordOf text, isWordCharacter c = true :=
  fun _ => List.mem_takeWhile_imp

theorem steady_quotedString : Steady quotedString := by
  obtain ⟨take, same, takes⟩ := exists_take_quotedString
  rw [same]
  refine steady_whole fun text value length taken => ?_
  obtain ⟨body, more, rfl, split, -, rfl⟩ := takes text value length taken
  have shape : ('\'' :: (body ++ '\'' :: more)).take (body.length + 2) =
      '\'' :: (body ++ ['\'']) := by
    rw [List.take_succ_cons, List.take_length_add_append]
    rfl
  rw [shape]
  exact (passes_quoted split).2

theorem steady_identifier : Steady identifier := by
  refine steady_whole fun text value length taken => ?_
  have word : text.take length = wordOf text := by
    unfold takeIdentifier at taken
    split at taken
    · cases taken
    · cases taken
    · dsimp only at taken
      split at taken
      · cases taken
      · cases taken
        exact (List.prefix_iff_eq_take.mp (List.takeWhile_prefix _)).symm
  rw [word]
  exact passes_word (wordOf_characters text)

theorem steady_word {construct : Construct} {word : List Char}
    (characters : ∀ c ∈ word, isWordCharacter c = true) :
    Steady (whole construct (takeWord word)) := by
  refine steady_whole fun text value length taken => ?_
  unfold takeWord at taken
  split at taken
  · rename_i front
    cases taken
    rw [← List.prefix_iff_eq_take.mp (List.isPrefixOf_iff_prefix.mp front.1)]
    exact passes_word characters
  · cases taken

theorem steady_number : Steady number := by
  intro assertion carried
  refine .bind alike_position fun first => .bind ?_ fun digits => .bind alike_position fun _ =>
    alike_pure _
  refine steady_whole (fun text value length taken => ?_) assertion carried
  exact passes_word (characters_of_takeNumber taken)

theorem steady_key : Steady key := fun assertion carried =>
  .named .key (.orElse (steady_quotedString assertion carried) (steady_identifier assertion carried))

theorem steady_value : Steady value := by
  refine fun assertion carried => .named .value (alike_firstOf ?_)
  simp only [List.forall_mem_cons]
  exact ⟨.bind (steady_word (by decide) assertion carried) fun _ => alike_pure _,
    .bind (steady_word (by decide) assertion carried) fun _ => alike_pure _,
    steady_number assertion carried,
    .bind (steady_quotedString assertion carried) fun _ => alike_pure _,
    .bind (steady_identifier assertion carried) fun _ => alike_pure _, List.forall_mem_nil _⟩

theorem steady_operatorMark (construct : Construct) {text : String} (operator : Operator)
    (passes : Passes text.toList) : Steady (operatorMark construct text operator) :=
  fun assertion carried =>
    .named construct (.bind (steady_mark passes assertion carried) fun _ => alike_pure _)

theorem steady_operator : Steady operator := by
  refine fun assertion carried => .named .operator (alike_firstOf ?_)
  simp only [List.forall_mem_cons]
  refine ⟨?_, ?_, ?_, ?_, ?_, ?_, ?_, ?_, List.forall_mem_nil _⟩ <;>
  · refine steady_operatorMark _ _ (passes_of_forall ?_) assertion carried
    decide

theorem steady_flags : Steady (whole .patternLiteral takeFlags) := by
  refine steady_whole fun text value length taken => ?_
  cases taken
  rw [← List.prefix_iff_eq_take.mp (List.takeWhile_prefix _)]
  exact passes_word fun _ member => isWordCharacter_of_isAlpha (List.mem_takeWhile_imp member)

/-! ### Tests -/

/-- Through a pattern test an assertion goes from mark to mark: over the `=~`, gaps, the slash that
begins the literal, the source, and the slash that ends it. -/
theorem alike_patternTest (carried : Carried assertion)
    (matches' : ∀ rest, assertion ('=' :: '~' :: rest) → matched rest)
    (gaps : ∀ text rest, Gap text → matched (text ++ rest) → matched rest)
    (opens : ∀ rest, matched ('/' :: rest) → within rest)
    (source : ∀ text source length, within text → takeSource text = some (source, length) →
      behind (text.drop length))
    (closes : ∀ rest, behind ('/' :: rest) → assertion rest) :
    Alike assertion patternTest patternTest assertion := by
  have slash : Alike matched (mark ['/']) (mark ['/']) within := alike_mark opens
  have sources : Alike within (whole .patternSource takeSource) (whole .patternSource takeSource)
      behind := alike_whole source
  have slash' : Alike behind (mark ['/']) (mark ['/']) assertion := alike_mark closes
  have literals : Alike matched patternLiteral patternLiteral assertion :=
    .named .patternLiteral (.bind alike_position fun _ => .bind slash fun _ =>
      .bind sources fun _ => .bind slash' fun _ => .bind (steady_flags assertion carried) fun _ =>
        .bind alike_position fun _ => alike_pure _)
  exact .named .patternTest (.bind (steady_key assertion carried) fun _ =>
    .bind (steady_gap assertion carried) fun _ => .bind (alike_mark matches') fun _ =>
      .bind (alike_gap gaps) fun _ => .bind literals fun _ => alike_pure _)

/-- **An assertion is carried over every test if it is over pattern tests.** -/
theorem alike_test (carried : Carried assertion)
    (patterns : Alike assertion patternTest patternTest assertion) :
    Alike assertion test test assertion := by
  have gaps := steady_gap assertion carried
  have keys := steady_key assertion carried
  have isNot : Alike assertion notWord notWord assertion :=
    steady_word (by decide) assertion carried
  have isIn : Alike assertion inWord inWord assertion := steady_word (by decide) assertion carried
  have notInTests : Alike assertion notInTest notInTest assertion :=
    .named .notInTest (.bind keys fun _ => .bind gaps fun _ => .bind isNot fun _ =>
      .bind gaps fun _ => .bind isIn fun _ => .bind gaps fun _ => .bind keys fun _ => alike_pure _)
  have inTests : Alike assertion inTest inTest assertion :=
    .named .inTest (.bind keys fun _ => .bind gaps fun _ => .bind isIn fun _ =>
      .bind gaps fun _ => .bind keys fun _ => alike_pure _)
  have comparisons : Alike assertion comparison comparison assertion :=
    .named .comparison (.bind keys fun _ => .bind gaps fun _ =>
      .bind (steady_operator assertion carried) fun _ => .bind gaps fun _ =>
        .bind (steady_value assertion carried) fun _ => alike_pure _)
  refine alike_firstOf ?_
  simp only [List.forall_mem_cons]
  exact ⟨patterns, notInTests, inTests, comparisons,
    .bind (steady_word (by decide) assertion carried) fun _ => alike_pure _,
    .bind (steady_word (by decide) assertion carried) fun _ => alike_pure _,
    .named .keyTest (.bind keys fun _ => alike_pure _), List.forall_mem_nil _⟩

end WhenClause.Grammar

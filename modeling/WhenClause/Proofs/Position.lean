/-
**Positions within a text.**

A cursor stands within a text if what is in front of it is the text from its position on
(`Cursor.Within`). A reader `Stays` within the text if from such a cursor it gets to such a cursor,
and also if it fails all that it tried was tried at positions of the text. There is one rule for each
way of putting readers together. So nothing that comes of reading points beyond the text:

* `covered_of_read`: the extents of a formula cover what is written there, a number or a pattern
  literal with its slashes and flags;
* `position_le_of_read`: where reading fails there is a position of the text.
-/

import WhenClause.Proofs.ReaderValue

namespace WhenClause.Grammar

open Reader

variable {α β : Type} {text part part' : List Char} {cursor next : Cursor}
  {reader first other item : Reader α} {second : α → Reader β} {good good' : α → Prop}
  {inner : Reader Formula} {most : Nat}

/-! ### Cursors and extents -/

/-- From a cursor over a part of the text in front of it to the cursor behind that part. -/
structure Cursor.Moves (cursor : Cursor) (part : List Char) (next : Cursor) : Prop where
  rest : cursor.rest = part ++ next.rest
  position : next.position = cursor.position + part.length

/-- The cursor is one of a text. -/
def Cursor.Within (cursor : Cursor) (text : List Char) : Prop :=
  ∃ before, (Cursor.start text).Moves before cursor

/-- An extent covers a part of a text. -/
def Extent.Covers (extent : Extent) (text part : List Char) : Prop :=
  ∃ front rest, text = front ++ part ++ rest ∧ front.length = extent.first ∧
    (front ++ part).length = extent.last

namespace Cursor

theorem Moves.refl (cursor : Cursor) : cursor.Moves [] cursor := ⟨rfl, rfl⟩

theorem Moves.trans {middle : Cursor} (moves : cursor.Moves part middle)
    (moves' : middle.Moves part' next) : cursor.Moves (part ++ part') next where
  rest := by rw [moves.rest, moves'.rest, List.append_assoc]
  position := by rw [moves'.position, moves.position, List.length_append, Nat.add_assoc]

theorem moves_advance {count : Nat} (short : count ≤ cursor.rest.length) :
    cursor.Moves (cursor.rest.take count) (cursor.advance count) where
  rest := (List.take_append_drop count cursor.rest).symm
  position := by rw [List.length_take, Nat.min_eq_left short, advance]

theorem moves_of_front (front : part <+: cursor.rest) :
    cursor.Moves part (cursor.advance part.length) := by
  have moves := moves_advance front.length_le
  rwa [← List.prefix_iff_eq_take.mp front] at moves

theorem Within.moves (within : cursor.Within text) (moves : cursor.Moves part next) :
    next.Within text := by
  obtain ⟨before, moved⟩ := within
  exact ⟨before ++ part, moved.trans moves⟩

theorem Within.advance {count : Nat} (within : cursor.Within text)
    (short : count ≤ cursor.rest.length) : (cursor.advance count).Within text :=
  within.moves (moves_advance short)

theorem Within.position_le (within : cursor.Within text) : cursor.position ≤ text.length := by
  obtain ⟨before, parts, position⟩ := within
  have length := congrArg List.length parts
  rw [List.length_append] at length
  simp only [start] at length position
  omega

/-- What a cursor moves over is covered from there on. -/
theorem Within.covers (within : cursor.Within text) (moves : cursor.Moves part next) :
    (⟨cursor.position, next.position⟩ : Extent).Covers text part := by
  obtain ⟨before, moved⟩ := within
  refine ⟨before, next.rest, (moved.trans moves).rest, ?_, ?_⟩
  · rw [moved.position, start, Nat.zero_add]
  · rw [(moved.trans moves).position, start, Nat.zero_add]

end Cursor

/-! ### Records of what was tried -/

theorem Attempts.position_merge_le {earlier later : Attempts} (le : earlier.position ≤ most)
    (le' : later.position ≤ most) : (earlier.merge later).position ≤ most := by
  unfold merge
  split
  · exact le
  · split
    · exact le'
    · exact le'

theorem Attempts.position_within_le {parts : Attempts} {start : Nat} (construct : Construct)
    (atStart : start ≤ most) (le : parts.position ≤ most) :
    (parts.within construct start).position ≤ most := by
  unfold within
  split
  · exact atStart
  · split
    · exact atStart
    · exact le

/-! ### Readers that stay within the text -/

/-- An outcome within a text: nothing was tried beyond the text, and what is read is good and leaves
a cursor within the text. -/
structure Outcome.Within (text : List Char) (outcome : Outcome α) (good : α → Prop) : Prop where
  tried : outcome.attempts.position ≤ text.length
  leaves : ∀ value next, outcome.result = some (value, next) → next.Within text ∧ good value

/-- From a cursor within a text a reader gets to such an outcome. -/
def Stays (text : List Char) (reader : Reader α) (good : α → Prop) : Prop :=
  ∀ cursor, cursor.Within text → (reader cursor).Within text good

/-- What is read may be known by more than what the parts of the reader say. -/
theorem Stays.holds (stays : Stays text reader good)
    (each : ∀ cursor value next, cursor.Within text → (reader cursor).result = some (value, next) →
      good' value) : Stays text reader good' :=
  fun cursor within => {
    tried := (stays cursor within).tried
    leaves := fun value next read =>
      ⟨((stays cursor within).leaves value next read).1, each cursor value next within read⟩ }

/-! ### Single readers -/

theorem stays_pure {value : α} (holds : good value) : Stays text (pure value : Reader α) good := by
  refine fun cursor within => ⟨Nat.zero_le _, ?_⟩
  rintro _ _ ⟨⟩
  exact ⟨within, holds⟩

theorem stays_position : Stays text position fun _ => True := by
  refine fun cursor within => ⟨Nat.zero_le _, ?_⟩
  rintro _ _ ⟨⟩
  exact ⟨within, trivial⟩

theorem stays_gap : Stays text gap fun _ => True := by
  refine fun cursor within => ⟨Nat.zero_le _, ?_⟩
  rintro _ _ ⟨⟩
  exact ⟨within.advance (length_takeWhile_le isGap cursor.rest), trivial⟩

theorem stays_mark (part : List Char) : Stays text (mark part) fun _ => True := by
  intro cursor within
  unfold mark
  split
  · rename_i front
    refine ⟨Nat.zero_le _, ?_⟩
    rintro _ _ ⟨⟩
    exact ⟨within.moves (Cursor.moves_of_front (List.isPrefixOf_iff_prefix.mp front)), trivial⟩
  · exact ⟨Nat.zero_le _, nofun⟩

theorem stays_whole {construct : Construct} {take : List Char → Option (α × Nat)}
    (short : ∀ rest value length, take rest = some (value, length) → length ≤ rest.length) :
    Stays text (whole construct take) fun _ => True := by
  intro cursor within
  unfold whole
  split
  · rename_i value length taken
    refine ⟨Nat.zero_le _, ?_⟩
    rintro _ _ ⟨⟩
    exact ⟨within.advance (short _ _ _ taken), trivial⟩
  · exact ⟨within.position_le, nofun⟩

/-! ### Combinations -/

theorem Stays.bind {good' : β → Prop} (stays : Stays text first good)
    (next : ∀ value, good value → Stays text (second value) good') :
    Stays text (first >>= second) good' := by
  intro cursor within
  have front := stays cursor within
  show (Reader.bind first second cursor).Within text good'
  unfold Reader.bind
  split
  · rename_i same
    rw [same] at front
    exact ⟨front.tried, nofun⟩
  · rename_i value middle attempts same
    rw [same] at front
    obtain ⟨within, holds⟩ := front.leaves value middle rfl
    have behind := next value holds middle within
    exact ⟨Attempts.position_merge_le front.tried behind.tried, behind.leaves⟩

theorem Stays.map {good' : β → Prop} {f : α → β} (stays : Stays text reader good)
    (each : ∀ value, good value → good' (f value)) : Stays text (do return f (← reader)) good' :=
  stays.bind fun value holds => stays_pure (each value holds)

theorem Stays.orElse (stays : Stays text first good) (stays' : Stays text other good) :
    Stays text (Reader.orElse first other) good := by
  intro cursor within
  have front := stays cursor within
  unfold Reader.orElse
  split
  · rename_i same
    rw [same] at front
    exact ⟨front.tried, front.leaves⟩
  · rename_i same
    rw [same] at front
    have instead := stays' cursor within
    exact ⟨Attempts.position_merge_le front.tried instead.tried, instead.leaves⟩

theorem stays_firstOf {readers : List (Reader α)} (each : ∀ reader ∈ readers, Stays text reader good) :
    Stays text (firstOf readers) good := by
  induction readers with
  | nil => exact fun _ _ => ⟨Nat.zero_le _, nofun⟩
  | cons reader readers ih =>
    obtain ⟨head, tail⟩ := List.forall_mem_cons.mp each
    exact head.orElse (ih tail)

theorem Stays.named (construct : Construct) (stays : Stays text reader good) :
    Stays text (Reader.named construct reader) good := by
  intro cursor within
  have inside := stays cursor within
  unfold Reader.named
  split
  · rename_i same
    rw [same] at inside
    exact inside
  · rename_i same
    rw [same] at inside
    exact ⟨Attempts.position_within_le construct within.position_le inside.tried, nofun⟩

theorem Stays.many (stays : Stays text item good) (size : Nat) :
    Stays text (Reader.many size item) fun values => ∀ value ∈ values, good value := by
  -- the items before are good, and what was tried for them was tried within the text
  have from' : ∀ size before attempts, (∀ value ∈ before, good value) →
      attempts.position ≤ text.length →
        Stays text (manyFrom item size before attempts) fun values => ∀ value ∈ values, good value := by
    intro size
    induction size with
    | zero =>
      refine fun before attempts holds tried cursor within => ⟨tried, ?_⟩
      rintro _ _ ⟨⟩
      exact ⟨within, fun value member => holds value (List.mem_reverse.mp member)⟩
    | succ size ih =>
      intro before attempts holds tried cursor within
      have front := stays cursor within
      unfold manyFrom
      split
      · rename_i value middle more same
        rw [same] at front
        obtain ⟨within, head⟩ := front.leaves value middle rfl
        exact ih (value :: before) _ (List.forall_mem_cons.mpr ⟨head, holds⟩)
          (Attempts.position_merge_le tried front.tried) middle within
      · rename_i more same
        rw [same] at front
        refine ⟨Attempts.position_merge_le tried front.tried, ?_⟩
        rintro _ _ ⟨⟩
        exact ⟨within, fun value member => holds value (List.mem_reverse.mp member)⟩
  exact from' size [] .none (List.forall_mem_nil _) (Nat.zero_le _)

theorem Stays.repeatedly (stays : Stays text item good) (size : Nat) :
    Stays text (Grammar.repeatedly size item) fun values => ∀ value ∈ values, good value :=
  have items : Stays text (do gap; item) good := stays_gap.bind fun _ _ => stays
  .orElse
    (stays.bind fun _ head => (items.many size).bind fun _ tail =>
      stays_pure (List.forall_mem_cons.mpr ⟨head, tail⟩))
    (stays_pure (List.forall_mem_nil _))

/-! ### Tokens -/

/-- What is taken stands in front of the text. -/
def TakesFront (take : List Char → Option (List Char × Nat)) : Prop :=
  ∀ text taken length, take text = some (taken, length) → taken <+: text ∧ length = taken.length

theorem takesFront_takeIdentifier : TakesFront takeIdentifier := by
  intro text taken length run
  unfold takeIdentifier at run
  split at run
  · cases run
  · cases run
  · simp only [Option.ite_none_left_eq_some, Option.some.injEq, Prod.mk.injEq] at run
    obtain ⟨-, rfl, rfl⟩ := run
    exact ⟨List.takeWhile_prefix _, rfl⟩

theorem takesFront_takeNumber : TakesFront takeNumber := by
  intro text digits length run
  rw [eq_take_of_takeNumber run, List.length_take, Nat.min_eq_left (length_le_of_takeNumber run)]
  exact ⟨List.take_prefix _ _, rfl⟩

theorem prefix_splitSource (text : List Char) : (splitSource text).1 <+: text := by
  obtain ⟨source, front, parts, -⟩ := splitSourceFrom_eq text [] false
  rw [splitSource, front]
  exact ⟨_, parts.symm⟩

theorem takesFront_takeSource : TakesFront takeSource := by
  intro text source length run
  obtain ⟨rfl, rfl⟩ := Prod.mk.inj (eq_of_takeSource run).1
  exact ⟨prefix_splitSource text, rfl⟩

theorem takesFront_takeFlags : TakesFront takeFlags := by
  rintro text _ _ ⟨⟩
  exact ⟨List.takeWhile_prefix _, rfl⟩

theorem stays_taken {take : List Char → Option (List Char × Nat)} (front : TakesFront take)
    (construct : Construct) : Stays text (whole construct take) fun _ => True :=
  stays_whole fun rest taken length run => by
    obtain ⟨isPrefix, rfl⟩ := front rest taken length run
    exact isPrefix.length_le

theorem moves_of_whole {take : List Char → Option (List Char × Nat)} {construct : Construct}
    (front : TakesFront take) (read : (whole construct take cursor).result = some (part, next)) :
    cursor.Moves part next := by
  rw [result_whole, Option.map_eq_some_iff] at read
  obtain ⟨⟨taken, length⟩, run, same⟩ := read
  cases same
  obtain ⟨front, rfl⟩ := front _ _ _ run
  exact Cursor.moves_of_front front

theorem moves_of_mark (read : (mark part cursor).result = some ((), next)) :
    cursor.Moves part next := by
  rw [result_mark] at read
  split at read
  · rename_i front
    cases read
    exact Cursor.moves_of_front (List.isPrefixOf_iff_prefix.mp front)
  · cases read

theorem stays_quotedString : Stays text quotedString fun _ => True := by
  obtain ⟨take, same, takes⟩ := exists_take_quotedString
  rw [same]
  refine stays_whole fun rest value length taken => ?_
  obtain ⟨body, more, rfl, -, -, rfl⟩ := takes rest value length taken
  simp only [List.length_cons, List.length_append]
  omega

theorem stays_identifier : Stays text identifier fun _ => True :=
  stays_taken takesFront_takeIdentifier .identifier

theorem stays_key : Stays text key fun _ => True :=
  .named .key (stays_quotedString.orElse stays_identifier)

theorem stays_word (construct : Construct) (word : List Char) :
    Stays text (whole construct (takeWord word)) fun _ => True := by
  refine stays_whole fun rest value length taken => ?_
  unfold takeWord at taken
  split at taken
  · rename_i front
    cases taken
    exact (List.isPrefixOf_iff_prefix.mp front.1).length_le
  · cases taken

theorem stays_operator : Stays text operator fun _ => True := by
  have marks : ∀ construct part operator,
      Stays text (operatorMark construct part operator) fun _ => True :=
    fun construct part operator =>
      .named construct ((stays_mark _).bind fun _ _ => stays_pure trivial)
  refine .named .operator (stays_firstOf ?_)
  simp only [List.forall_mem_cons]
  exact ⟨marks _ _ _, marks _ _ _, marks _ _ _, marks _ _ _, marks _ _ _, marks _ _ _,
    marks _ _ _, marks _ _ _, List.forall_mem_nil _⟩

/-! ### Numbers and pattern literals -/

/-- The extent of a number covers its digits. -/
def WrittenValue.Covered (text : List Char) : WrittenValue → Prop
  | .number digits extent => extent.Covers text digits
  | _ => True

/-- So does the extent of a pattern literal, with its slashes and flags. -/
def WrittenTest.Covered (text : List Char) : WrittenTest → Prop
  | .matching _ source flags extent => extent.Covers text ('/' :: source ++ '/' :: flags)
  | .compare _ _ value => value.Covered text
  | _ => True

theorem stays_number : Stays text number (WrittenValue.Covered text) := by
  have stays : Stays text number fun _ => True :=
    stays_position.bind fun _ _ => (stays_taken takesFront_takeNumber .number).bind fun _ _ =>
      stays_position.bind fun _ _ => stays_pure trivial
  refine stays.holds fun cursor value next within read => ?_
  obtain ⟨_, _, ⟨⟩, read⟩ := result_bind_eq_some.mp read
  obtain ⟨digits, behind, taken, read⟩ := result_bind_eq_some.mp read
  obtain ⟨_, _, ⟨⟩, ⟨⟩⟩ := result_bind_eq_some.mp read
  exact within.covers (moves_of_whole takesFront_takeNumber taken)

theorem stays_patternLiteral : Stays text patternLiteral fun read =>
    read.2.2.Covers text ('/' :: read.1 ++ '/' :: read.2.1) := by
  have stays : Stays text patternLiteral fun _ => True :=
    .named .patternLiteral (stays_position.bind fun _ _ => (stays_mark _).bind fun _ _ =>
      (stays_taken takesFront_takeSource .patternSource).bind fun _ _ =>
        (stays_mark _).bind fun _ _ =>
          (stays_taken takesFront_takeFlags .patternLiteral).bind fun _ _ =>
            stays_position.bind fun _ _ => stays_pure trivial)
  refine stays.holds fun cursor value next within read => ?_
  rw [patternLiteral, result_named] at read
  obtain ⟨_, _, ⟨⟩, read⟩ := result_bind_eq_some.mp read
  obtain ⟨_, open', opened, read⟩ := result_bind_eq_some.mp read
  obtain ⟨source, close, sourced, read⟩ := result_bind_eq_some.mp read
  obtain ⟨_, behind, closed, read⟩ := result_bind_eq_some.mp read
  obtain ⟨flags, last, flagged, read⟩ := result_bind_eq_some.mp read
  obtain ⟨_, _, ⟨⟩, ⟨⟩⟩ := result_bind_eq_some.mp read
  have body := (moves_of_mark opened).trans (moves_of_whole takesFront_takeSource sourced)
  have tail := (moves_of_mark closed).trans (moves_of_whole takesFront_takeFlags flagged)
  exact within.covers (body.trans tail)

theorem stays_value : Stays text value (WrittenValue.Covered text) := by
  refine .named .value (stays_firstOf ?_)
  simp only [List.forall_mem_cons]
  exact ⟨(stays_word _ _).bind fun _ _ => stays_pure trivial,
    (stays_word _ _).bind fun _ _ => stays_pure trivial, stays_number,
    stays_quotedString.map fun _ _ => trivial, stays_identifier.map fun _ _ => trivial,
    List.forall_mem_nil _⟩

/-- **A test stays within the text, and its extents cover what they should.** -/
theorem stays_test : Stays text test (WrittenTest.Covered text) := by
  refine stays_firstOf ?_
  simp only [List.forall_mem_cons]
  refine ⟨?_, ?_, ?_, ?_, ?_, ?_, ?_, List.forall_mem_nil _⟩
  · exact .named .patternTest (stays_key.bind fun _ _ => stays_gap.bind fun _ _ =>
      (stays_mark _).bind fun _ _ => stays_gap.bind fun _ _ =>
        stays_patternLiteral.bind fun _ covers => stays_pure covers)
  · exact .named .notInTest (stays_key.bind fun _ _ => stays_gap.bind fun _ _ =>
      (stays_word _ _).bind fun _ _ => stays_gap.bind fun _ _ => (stays_word _ _).bind fun _ _ =>
        stays_gap.bind fun _ _ => stays_key.bind fun _ _ => stays_pure trivial)
  · exact .named .inTest (stays_key.bind fun _ _ => stays_gap.bind fun _ _ =>
      (stays_word _ _).bind fun _ _ => stays_gap.bind fun _ _ => stays_key.bind fun _ _ =>
        stays_pure trivial)
  · exact .named .comparison (stays_key.bind fun _ _ => stays_gap.bind fun _ _ =>
      stays_operator.bind fun _ _ => stays_gap.bind fun _ _ => stays_value.bind fun _ covered =>
        stays_pure covered)
  · exact (stays_word _ _).bind fun _ _ => stays_pure trivial
  · exact (stays_word _ _).bind fun _ _ => stays_pure trivial
  · exact .named .keyTest (stays_key.bind fun _ _ => stays_pure trivial)

/-! ### The grammar -/

section Formulas

variable {tested : WrittenTest → Prop} {separator : List Char}

theorem stays_joined {item : Reader Formula} (stays : Stays text item (Formula.Each tested))
    (size : Nat) : Stays text (joined size separator item) (Formula.EachOf tested) := by
  have step : Stays text (do mark separator; gap; item) (Formula.Each tested) :=
    (stays_mark separator).bind fun _ _ => stays_gap.bind fun _ _ => stays
  exact stays.bind fun _ head => stays_gap.bind fun _ _ => (step.repeatedly size).bind fun _ tail =>
    stays_pure ⟨head, eachOf_of_forall_mem tail⟩

variable (tests : Stays text test tested)

include tests

/-- Where tests and what is read within groups stay within the text, so does a disjunction. -/
theorem stays_disjunctionOf (inside : Stays text inner (Formula.Each tested)) (size : Nat) :
    Stays text (disjunctionOf size inner) (Formula.Each tested) := by
  have groups : Stays text (group inner) (Formula.Each tested) :=
    .named .group ((stays_mark _).bind fun _ _ => stays_gap.bind fun _ _ => inside.bind fun _ each =>
      stays_gap.bind fun _ _ => (stays_mark _).bind fun _ _ => stays_pure each)
  have primaries : Stays text (primary inner) (Formula.Each tested) :=
    .named .primary (groups.orElse (tests.map fun _ holds => holds))
  have marks : Stays text negationMark fun _ => True := .named .negationMark (stays_mark _)
  have unaries : Stays text (unary size inner) (Formula.Each tested) :=
    .named .unary ((marks.repeatedly size).bind fun _ _ => stays_gap.bind fun _ _ =>
      primaries.map fun _ => each_negated _)
  have conjunctions : Stays text (conjunction size inner) (Formula.Each tested) :=
    .named .conjunction ((stays_joined unaries size).map fun _ each => each)
  exact .named .disjunction ((stays_joined conjunctions size).map fun _ each => each)

theorem stays_disjunction (size : Nat) :
    ∀ depth, Stays text (disjunction size depth) (Formula.Each tested)
  | 0 => fun _ _ => ⟨Nat.zero_le _, nofun⟩
  | depth + 1 => stays_disjunctionOf tests (stays_disjunction size depth) size

end Formulas

/-- **The reading of a whole text stays within it.** -/
theorem within_expression (text : List Char) (size : Nat) :
    (expression size (.start text)).Within text (Formula.Each (WrittenTest.Covered text)) := by
  have ends : Stays text endOfInput fun _ => True := by
    refine stays_whole fun rest value length taken => ?_
    split at taken
    · cases taken
      exact Nat.zero_le _
    · cases taken
  have whole : Stays text (expression size) (Formula.Each (WrittenTest.Covered text)) :=
    .named .expression (stays_gap.bind fun _ _ =>
      (stays_disjunction stays_test size size).bind fun _ each => stays_gap.bind fun _ _ =>
        ends.bind fun _ _ => stays_pure each)
  exact whole _ ⟨[], Cursor.Moves.refl _⟩

/-- **The extents of a formula cover its numbers and pattern literals.** -/
theorem covered_of_read {formula : Formula} (run : read text = .ok formula) :
    formula.Each (WrittenTest.Covered text) := by
  obtain ⟨next, found⟩ := exists_of_read run
  exact ((within_expression text _).leaves formula next found).2

/-- **Reading fails at a position of the text.** -/
theorem position_le_of_read {attempts : Attempts} (run : read text = .error attempts) :
    attempts.position ≤ text.length := by
  have tried := (within_expression text (text.length + 1)).tried
  unfold read at run
  dsimp only at run
  split at run
  · cases run
  · cases run
    exact tried

end WhenClause.Grammar

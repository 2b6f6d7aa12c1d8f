/-
**What readers give.**

An outcome is a result together with a record of what was tried. Which result a reader gives does
not depend on the records, so results compose by themselves.

* `result_bind`, `result_orElse`, …: the result of each combination in terms of its parts;
* `Takes`, `Refuses`: what a reader takes off the front of a text, and that it takes nothing, with a
  rule for each combination;
* `Repeats`: an item is read again and again;
* `result_many_of_repeats`, `result_repeatedly_of_repeats`: repetition reads all of these items if
  another one is refused behind them.
-/

import WhenClause.Grammar.Production

namespace WhenClause.Grammar

open Reader

variable {α β : Type} {item : Reader α} {cursor behind : Cursor} {values : List α} {size : Nat}

/-! ### Characters of a text -/

/-- What holds of all characters of a text is decided by looking at these, not at all characters. -/
instance (priority := high) decidableForallMem (text : List Char) (p : Char → Prop)
    [DecidablePred p] : Decidable (∀ c ∈ text, p c) :=
  List.decidableBAll p text

instance (priority := high) decidableForallMemOption (first : Option Char) (p : Char → Prop)
    [DecidablePred p] : Decidable (∀ c ∈ first, p c) :=
  Option.decidableForallMem first

/-! ### Cursors -/

/-- Nothing that may stand between tokens stands in front. -/
def Settled (text : List Char) : Prop := ∀ c ∈ text.head?, isGap c = false

theorem settled_cons {c : Char} {rest : List Char} (noGap : isGap c = false) :
    Settled (c :: rest) := by
  rintro _ ⟨⟩
  exact noGap

theorem Cursor.advance_append (position : Nat) (taken rest : List Char) :
    (⟨position, taken ++ rest⟩ : Cursor).advance taken.length =
      ⟨position + taken.length, rest⟩ := by
  simp [advance]

theorem Cursor.advance_add (cursor : Cursor) (first second : Nat) :
    cursor.advance (first + second) = (cursor.advance first).advance second := by
  simp [advance, Nat.add_assoc]

theorem drop_length_takeWhile (p : Char → Bool) (text : List Char) :
    text.drop (text.takeWhile p).length = text.dropWhile p := by
  have parts := @List.takeWhile_append_dropWhile _ p text
  calc text.drop (text.takeWhile p).length
      = (text.takeWhile p ++ text.dropWhile p).drop (text.takeWhile p).length := by rw [parts]
    _ = text.dropWhile p := List.drop_left

theorem takeWhile_isGap_of_settled {text : List Char} (settled : Settled text) :
    text.takeWhile isGap = [] := by
  cases text with
  | nil => rfl
  | cons c text => exact List.takeWhile_cons_of_neg (by rw [settled c rfl]; exact Bool.false_ne_true)

theorem Cursor.skipGap_of_settled {cursor : Cursor} (settled : Settled cursor.rest) :
    cursor.skipGap = cursor := by
  simp [skipGap, advance, takeWhile_isGap_of_settled settled]

theorem Cursor.rest_skipGap (cursor : Cursor) :
    cursor.skipGap.rest = cursor.rest.dropWhile isGap :=
  drop_length_takeWhile isGap cursor.rest

theorem Cursor.exists_skipGap (cursor : Cursor) :
    ∃ position, cursor.skipGap = ⟨position, cursor.rest.dropWhile isGap⟩ :=
  ⟨cursor.skipGap.position, by rw [← rest_skipGap]⟩

theorem settled_dropWhile (text : List Char) : Settled (text.dropWhile isGap) := by
  intro c first
  have := List.head?_dropWhile_not isGap text
  rw [Option.mem_def.mp first] at this
  simpa using this

theorem Cursor.settled_skipGap (cursor : Cursor) : Settled cursor.skipGap.rest := by
  rw [rest_skipGap]
  exact settled_dropWhile cursor.rest

@[simp] theorem Cursor.skipGap_skipGap (cursor : Cursor) :
    cursor.skipGap.skipGap = cursor.skipGap :=
  skipGap_of_settled cursor.settled_skipGap

/-! ### Combinations -/

theorem result_pure (value : α) (cursor : Cursor) :
    ((pure value : Reader α) cursor).result = some (value, cursor) := rfl

theorem result_bind (first : Reader α) (second : α → Reader β) (cursor : Cursor) :
    ((first >>= second) cursor).result =
      (first cursor).result.bind fun read => (second read.1 read.2).result := by
  show (Reader.bind first second cursor).result = _
  unfold Reader.bind
  split <;> rename_i same <;> rw [same] <;> rfl

theorem result_orElse (first second : Reader α) (cursor : Cursor) :
    (orElse first second cursor).result = (first cursor).result.or (second cursor).result := by
  unfold orElse
  split <;> rename_i same <;> rw [same] <;> rfl

theorem result_named (construct : Construct) (reader : Reader α) (cursor : Cursor) :
    (named construct reader cursor).result = (reader cursor).result := by
  unfold named
  split <;> rename_i same <;> rw [same]

theorem result_whole (construct : Construct) (take : List Char → Option (α × Nat))
    (cursor : Cursor) :
    (whole construct take cursor).result =
      (take cursor.rest).map fun taken => (taken.1, cursor.advance taken.2) := by
  unfold whole
  split <;> rename_i same <;> rw [same] <;> rfl

theorem result_gap (cursor : Cursor) : (gap cursor).result = some ((), cursor.skipGap) := rfl

theorem result_position (cursor : Cursor) :
    (position cursor).result = some (cursor.position, cursor) := rfl

theorem result_mark (text : List Char) (cursor : Cursor) :
    (mark text cursor).result =
      if text.isPrefixOf cursor.rest then some ((), cursor.advance text.length) else none := by
  unfold mark
  split <;> rfl

/-! ### Texts in front -/

section Texts

variable {reader first other : Reader α} {second : α → Reader β} {good : α → Prop}
  {good' : β → Prop} {text text' rest : List Char} {value : α} {construct : Construct}
  {take : List Char → Option (α × Nat)}

/-- In front of `rest` a reader takes a text, wherever it stands, and gives a good value. -/
def Takes (reader : Reader α) (text rest : List Char) (good : α → Prop) : Prop :=
  ∀ position, ∃ value, (reader ⟨position, text ++ rest⟩).result =
    some (value, ⟨position + text.length, rest⟩) ∧ good value

/-- A reader takes nothing off the front of a text, wherever it stands. -/
def Refuses (reader : Reader α) (text : List Char) : Prop :=
  ∀ position, (reader ⟨position, text⟩).result = none

theorem takes_pure (holds : good value) (rest : List Char) :
    Takes (pure value : Reader α) [] rest good :=
  fun _ => ⟨value, rfl, holds⟩

theorem takes_position (rest : List Char) : Takes position [] rest fun _ => True :=
  fun position => ⟨position, rfl, trivial⟩

theorem takes_whole (taken : take (text ++ rest) = some (value, text.length)) :
    Takes (whole construct take) text rest (· = value) := by
  refine fun position => ⟨value, ?_, rfl⟩
  rw [result_whole, taken, Option.map_some, Cursor.advance_append]

theorem refuses_whole (none' : take text = none) : Refuses (whole construct take) text := by
  intro position
  rw [result_whole, none', Option.map_none]

theorem takes_mark (text rest : List Char) : Takes (mark text) text rest fun _ => True := by
  have front : text.isPrefixOf (text ++ rest) = true :=
    List.isPrefixOf_iff_prefix.mpr (List.prefix_append text rest)
  refine fun position => ⟨(), ?_, trivial⟩
  rw [result_mark, if_pos front, Cursor.advance_append]

theorem refuses_mark (none' : text.isPrefixOf rest = false) : Refuses (mark text) rest := by
  intro position
  rw [result_mark, none', if_neg Bool.false_ne_true]

/-- A mark is refused where something else stands in front. -/
theorem refuses_mark_of_head_ne {c : Char} (differ : ∀ d ∈ rest.head?, d ≠ c) :
    Refuses (mark (c :: text)) rest := by
  refine refuses_mark ?_
  cases rest with
  | nil => rfl
  | cons d rest =>
    have differ : (c == d) = false := beq_false_of_ne (differ d rfl).symm
    rw [List.isPrefixOf, differ, Bool.false_and]

theorem Takes.mono {good' : α → Prop} (takes : Takes reader text rest good)
    (weaker : ∀ value, good value → good' value) : Takes reader text rest good' := by
  intro position
  obtain ⟨value, read, holds⟩ := takes position
  exact ⟨value, read, weaker value holds⟩

/-- Two readers take two texts one behind the other. -/
theorem Takes.bind (takes : Takes reader text (text' ++ rest) good)
    (next : ∀ value, good value → Takes (second value) text' rest good') :
    Takes (reader >>= second) (text ++ text') rest good' := by
  intro position
  obtain ⟨value, read, holds⟩ := takes position
  obtain ⟨value', read', holds'⟩ := next value holds (position + text.length)
  refine ⟨value', ?_, holds'⟩
  rw [List.append_assoc, result_bind, read, Option.bind_some, read', List.length_append,
    Nat.add_assoc]

/-- What follows may take nothing. -/
theorem Takes.bind_nil (takes : Takes reader text rest good)
    (next : ∀ value, good value → Takes (second value) [] rest good') :
    Takes (reader >>= second) text rest good' := by
  have both := @Takes.bind _ _ reader second good good' text [] rest takes next
  rwa [List.append_nil] at both

/-- What comes first may take nothing. -/
theorem Takes.nil_bind (takes : Takes reader [] (text ++ rest) good)
    (next : ∀ value, good value → Takes (second value) text rest good') :
    Takes (reader >>= second) text rest good' :=
  takes.bind next

theorem Takes.map {f : α → β} (takes : Takes reader text rest good)
    (each : ∀ value, good value → good' (f value)) :
    Takes (do return f (← reader)) text rest good' :=
  takes.bind_nil fun value holds => takes_pure (each value holds) rest

theorem Refuses.bind (refuses : Refuses reader text) (second : α → Reader β) :
    Refuses (reader >>= second) text := by
  intro position
  rw [result_bind, refuses, Option.bind_none]

theorem Takes.bind_refuses (takes : Takes reader text rest good)
    (next : ∀ value, good value → Refuses (second value) rest) :
    Refuses (reader >>= second) (text ++ rest) := by
  intro position
  obtain ⟨value, read, holds⟩ := takes position
  rw [result_bind, read, Option.bind_some, next value holds]

theorem Takes.named (takes : Takes reader text rest good) :
    Takes (named construct reader) text rest good := by
  intro position
  rw [result_named]
  exact takes position

theorem Refuses.named (refuses : Refuses reader text) : Refuses (named construct reader) text := by
  intro position
  rw [result_named, refuses]

/-- The first reader that takes something is taken. -/
theorem Takes.orElse (takes : Takes first text rest good) (other : Reader α) :
    Takes (orElse first other) text rest good := by
  intro position
  obtain ⟨value, read, holds⟩ := takes position
  exact ⟨value, by rw [result_orElse, read, Option.some_or], holds⟩

theorem Refuses.orElse (refuses : Refuses first (text ++ rest)) (takes : Takes other text rest good) :
    Takes (orElse first other) text rest good := by
  intro position
  obtain ⟨value, read, holds⟩ := takes position
  exact ⟨value, by rw [result_orElse, refuses, Option.none_or, read], holds⟩

theorem Takes.firstOf (takes : Takes first text rest good) (others : List (Reader α)) :
    Takes (firstOf (first :: others)) text rest good :=
  takes.orElse (Reader.firstOf others)

theorem Refuses.firstOf {others : List (Reader α)} (refuses : Refuses first (text ++ rest))
    (takes : Takes (Reader.firstOf others) text rest good) :
    Takes (Reader.firstOf (first :: others)) text rest good :=
  refuses.orElse takes

end Texts

/-! ### Repetition -/

/-- The item is read so many times, one behind another. -/
inductive Repeats (item : Reader α) : Cursor → List α → Cursor → Prop where
  | stop (cursor : Cursor) : Repeats item cursor [] cursor
  | next {cursor middle behind : Cursor} {value : α} {values : List α}
      (read : (item cursor).result = some (value, middle))
      (repeats : Repeats item middle values behind) : Repeats item cursor (value :: values) behind

theorem Repeats.append {middle : Cursor} {values' : List α}
    (first : Repeats item cursor values middle) (second : Repeats item middle values' behind) :
    Repeats item cursor (values ++ values') behind := by
  induction first with
  | stop => exact second
  | next read _ ih => exact .next read (ih second)

theorem result_manyFrom_of_repeats (repeats : Repeats item cursor values behind)
    (refused : (item behind).result = none) (enough : values.length ≤ size) (before : List α)
    (attempts : Attempts) :
    (manyFrom item size before attempts cursor).result =
      some (before.reverse ++ values, behind) := by
  induction repeats generalizing size before attempts with
  | stop cursor =>
    rw [List.append_nil]
    cases size with
    | zero => rfl
    | succ size =>
      unfold manyFrom
      split
      · rename_i same
        rw [same] at refused
        cases refused
      · rfl
  | next read _ ih =>
    cases size with
    | zero => cases enough
    | succ size =>
      unfold manyFrom
      split
      · rename_i same
        rw [same] at read
        cases read
        rw [ih refused (Nat.le_of_succ_le_succ enough), List.reverse_cons, List.append_assoc]
        rfl
      · rename_i same
        rw [same] at read
        cases read

theorem result_many_of_repeats (repeats : Repeats item cursor values behind)
    (refused : (item behind).result = none) (enough : values.length ≤ size) :
    (many size item cursor).result = some (values, behind) :=
  result_manyFrom_of_repeats repeats refused enough [] .none

/-- **Repetition with gaps reads what the item behind a gap reads again and again.** -/
theorem result_repeatedly_of_repeats (settled : Settled cursor.rest)
    (repeats : Repeats (do gap; item) cursor values behind)
    (refused : ((do gap; item : Reader α) behind).result = none)
    (enough : values.length ≤ size + 1) :
    (repeatedly size item cursor).result = some (values, behind) := by
  have front : ((do gap; item : Reader α) cursor).result = (item cursor).result := by
    rw [result_bind, result_gap, Option.bind_some, Cursor.skipGap_of_settled settled]
  simp only [repeatedly, result_orElse, result_bind, result_pure]
  cases repeats with
  | stop =>
    rw [front] at refused
    simp only [refused, Option.bind_none, Option.none_or]
  | next read repeats =>
    rw [front] at read
    have rest := result_many_of_repeats repeats refused (Nat.le_of_succ_le_succ enough)
    simp only [read, rest, Option.bind_some, Option.some_or]

/-- What is read behind a gap does not depend on how much of the gap is skipped before. -/
theorem Repeats.skipGap {cursor' : Cursor} (same : cursor.skipGap = cursor'.skipGap)
    (repeats : Repeats (do gap; item) cursor values behind) :
    ∃ behind', Repeats (do gap; item) cursor' values behind' ∧
      behind'.skipGap = behind.skipGap := by
  cases repeats with
  | stop => exact ⟨cursor', .stop cursor', same.symm⟩
  | next read repeats =>
    refine ⟨behind, .next ?_ repeats, rfl⟩
    rw [result_bind, result_gap, Option.bind_some] at read ⊢
    rw [← same]
    exact read

end WhenClause.Grammar

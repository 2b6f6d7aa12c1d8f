/-
**What readers give values of.**

A reader `Gives` values with some property if it never succeeds with another one, whatever text is
in front of it. There is one rule for each way of putting readers together, so a property that every
test has that is read passes to all tests of a formula (`each_of_read`).

One such property is `WrittenTest.Sourced`: the source of a pattern test is one that the grammar ends
at the slash behind it.
-/

import WhenClause.Proofs.Operations
import WhenClause.Proofs.PatternSource

namespace WhenClause.Grammar

open Reader

variable {α β : Type} {reader first other item : Reader α} {good good' : α → Prop}
  {second : α → Reader β} {inner : Reader Formula} {size : Nat}

/-- Whatever a reader reads, it gives a good value. -/
def Gives (reader : Reader α) (good : α → Prop) : Prop :=
  ∀ cursor value next, (reader cursor).result = some (value, next) → good value

theorem Gives.holds {cursor next : Cursor} {value : α} (gives : Gives reader good)
    (read : (reader cursor).result = some (value, next)) : good value :=
  gives cursor value next read

/-! ### Combinations -/

theorem result_bind_eq_some {cursor : Cursor} {read : β × Cursor} :
    ((first >>= second) cursor).result = some read ↔
      ∃ value next, (first cursor).result = some (value, next) ∧
        (second value next).result = some read := by
  rw [result_bind, Option.bind_eq_some_iff]
  exact Prod.exists

theorem gives_pure {value : α} (holds : good value) : Gives (pure value : Reader α) good := by
  rintro _ _ _ ⟨⟩
  exact holds

theorem Gives.bind {good' : β → Prop} (gives : Gives first good)
    (next : ∀ value, good value → Gives (second value) good') : Gives (first >>= second) good' := by
  intro cursor value behind read
  obtain ⟨value', middle, read', rest⟩ := result_bind_eq_some.mp read
  exact (next value' (gives.holds read')).holds rest

/-- What is read first may be anything. -/
theorem gives_bind {good' : β → Prop} (next : ∀ value, Gives (second value) good') :
    Gives (first >>= second) good' := by
  intro cursor value behind read
  obtain ⟨value', middle, -, rest⟩ := result_bind_eq_some.mp read
  exact (next value').holds rest

theorem Gives.map {good' : β → Prop} {f : α → β} (gives : Gives reader good)
    (each : ∀ value, good value → good' (f value)) : Gives (do return f (← reader)) good' :=
  gives.bind fun value holds => gives_pure (each value holds)

theorem Gives.orElse (gives : Gives first good) (gives' : Gives other good) :
    Gives (Reader.orElse first other) good := by
  intro cursor value next read
  rw [result_orElse, Option.or_eq_some_iff] at read
  rcases read with read | ⟨-, read⟩
  · exact gives.holds read
  · exact gives'.holds read

theorem gives_firstOf {readers : List (Reader α)} (each : ∀ reader ∈ readers, Gives reader good) :
    Gives (firstOf readers) good := by
  induction readers with
  | nil => exact fun _ _ _ read => nomatch read
  | cons reader readers ih =>
    obtain ⟨head, tail⟩ := List.forall_mem_cons.mp each
    exact head.orElse (ih tail)

theorem Gives.named (construct : Construct) (gives : Gives reader good) :
    Gives (Reader.named construct reader) good := by
  intro cursor value next read
  rw [result_named] at read
  exact gives.holds read

theorem Gives.many (gives : Gives item good) (size : Nat) :
    Gives (Reader.many size item) fun values => ∀ value ∈ values, good value := by
  have from' : ∀ size before attempts, (∀ value ∈ before, good value) →
      Gives (manyFrom item size before attempts) fun values => ∀ value ∈ values, good value := by
    intro size
    induction size with
    | zero =>
      rintro before attempts holds _ _ _ ⟨⟩
      exact fun value member => holds value (List.mem_reverse.mp member)
    | succ size ih =>
      intro before attempts holds cursor values next read
      unfold manyFrom at read
      split at read
      · rename_i value middle more same
        have first : (item cursor).result = some (value, middle) := by rw [same]
        exact (ih (value :: before) _ (List.forall_mem_cons.mpr ⟨gives.holds first, holds⟩)).holds read
      · cases read
        exact fun value member => holds value (List.mem_reverse.mp member)
  exact from' size [] .none (List.forall_mem_nil _)

/-- What was read before is kept. -/
theorem gives_manyFrom_mem (size : Nat) : ∀ before attempts,
    Gives (manyFrom item size before attempts) fun values => ∀ value ∈ before, value ∈ values := by
  induction size with
  | zero =>
    rintro before attempts _ _ _ ⟨⟩
    exact fun value member => List.mem_reverse.mpr member
  | succ size ih =>
    intro before attempts cursor values next read
    unfold manyFrom at read
    split at read
    · rename_i value middle more same
      exact (List.forall_mem_cons.mp ((ih (value :: before) _).holds read)).2
    · cases read
      exact fun value member => List.mem_reverse.mpr member

theorem Gives.repeatedly (gives : Gives item good) (size : Nat) :
    Gives (Grammar.repeatedly size item) fun values => ∀ value ∈ values, good value :=
  .orElse
    (gives.bind fun _ holds => ((gives_bind fun _ => gives : Gives (do gap; item) good).many
      size).bind fun _ holds' => gives_pure (List.forall_mem_cons.mpr ⟨holds, holds'⟩))
    (gives_pure (List.forall_mem_nil _))

/-! ### Tests of formulas -/

section Formulas

variable {good : WrittenTest → Prop} {formula : Formula} {separator : List Char}

theorem eachOf_of_forall_mem : ∀ {parts : List Formula}, (∀ part ∈ parts, part.Each good) →
    Formula.EachOf good parts
  | [], _ => trivial
  | _ :: _, each =>
    ⟨(List.forall_mem_cons.mp each).1, eachOf_of_forall_mem (List.forall_mem_cons.mp each).2⟩

theorem each_negated (marks : Nat) (each : formula.Each good) :
    (negated marks formula).Each good := by
  unfold negated
  split
  · exact each
  · exact each

theorem gives_joined {item : Reader Formula} (gives : Gives item (Formula.Each good)) (size : Nat) :
    Gives (joined size separator item) (Formula.EachOf good) := by
  have step : Gives (do mark separator; gap; item) (Formula.Each good) :=
    gives_bind fun _ => gives_bind fun _ => gives
  exact gives.bind fun _ head => gives_bind fun _ => (step.repeatedly size).bind fun _ tail =>
    gives_pure ⟨head, eachOf_of_forall_mem tail⟩

variable (tests : Gives test good)

include tests

/-- Where the tests and what is read within groups are good, so is a disjunction. -/
theorem gives_disjunctionOf (within : Gives inner (Formula.Each good)) (size : Nat) :
    Gives (disjunctionOf size inner) (Formula.Each good) := by
  have groups : Gives (group inner) (Formula.Each good) :=
    .named .group (gives_bind fun _ => gives_bind fun _ => within.bind fun _ holds =>
      gives_bind fun _ => gives_bind fun _ => gives_pure holds)
  have primaries : Gives (primary inner) (Formula.Each good) :=
    .named .primary (groups.orElse (tests.map fun _ holds => holds))
  have unaries : Gives (unary size inner) (Formula.Each good) :=
    .named .unary (gives_bind fun _ => gives_bind fun _ => primaries.map fun _ => each_negated _)
  have conjunctions : Gives (conjunction size inner) (Formula.Each good) :=
    .named .conjunction ((gives_joined unaries size).map fun _ holds => holds)
  exact .named .disjunction ((gives_joined conjunctions size).map fun _ holds => holds)

theorem gives_disjunction (size : Nat) :
    ∀ depth, Gives (disjunction size depth) (Formula.Each good)
  | 0 => fun _ _ _ read => nomatch read
  | depth + 1 => gives_disjunctionOf tests (gives_disjunction size depth) size

end Formulas

/-- A formula of a whole text is what the grammar reads in front of the text. -/
theorem exists_of_read {text : List Char} {formula : Formula} (run : read text = .ok formula) :
    ∃ next, (expression (text.length + 1) (.start text)).result = some (formula, next) := by
  unfold read at run
  dsimp only at run
  split at run
  · rename_i next found
    cases run
    exact ⟨next, found⟩
  · cases run

/-- What holds of every disjunction that is read holds of whole formulas. -/
theorem holds_of_read {good : Formula → Prop} {text : List Char} {formula : Formula}
    (gives : ∀ size depth, Gives (disjunction size depth) good) (run : read text = .ok formula) :
    good formula := by
  have whole : Gives (expression (text.length + 1)) good :=
    .named .expression (gives_bind fun _ => (gives _ _).bind fun _ holds =>
      gives_bind fun _ => gives_bind fun _ => gives_pure holds)
  obtain ⟨next, found⟩ := exists_of_read run
  exact whole.holds found

/-- **What holds of every test that is read holds of the tests of a whole formula.** -/
theorem each_of_read {good : WrittenTest → Prop} {text : List Char} {formula : Formula}
    (tests : Gives test good) (run : read text = .ok formula) : formula.Each good :=
  holds_of_read (gives_disjunction tests) run

/-- A disjunction is an `any`, also one of a single part. -/
theorem gives_disjunction_any (size : Nat) :
    ∀ depth, Gives (disjunction size depth) fun formula => ∃ parts, formula = .any parts
  | 0 => fun _ _ _ read => nomatch read
  | _ + 1 => .named .disjunction (gives_bind fun parts => gives_pure ⟨parts, rfl⟩)

/-- A whole formula is a disjunction. -/
theorem exists_any_of_read {text : List Char} {formula : Formula} (run : read text = .ok formula) :
    ∃ parts, formula = .any parts :=
  holds_of_read gives_disjunction_any run

/-! ### Sources of pattern tests -/

/-- The source of a pattern test is ended at the slash behind it. -/
def WrittenTest.Sourced : WrittenTest → Prop
  | .matching _ source _ _ => ∃ closing, SourceEnds closing false source
  | _ => True

theorem gives_patternLiteral :
    Gives patternLiteral fun read => ∃ closing, SourceEnds closing false read.1 := by
  refine .named .patternLiteral (gives_bind fun _ => gives_bind fun _ => ?_)
  intro cursor value next read
  obtain ⟨source, middle, first, rest⟩ := result_bind_eq_some.mp read
  obtain ⟨_, last, slash, rest⟩ := result_bind_eq_some.mp rest
  obtain ⟨flags, _, -, rest⟩ := result_bind_eq_some.mp rest
  obtain ⟨_, _, -, rest⟩ := result_bind_eq_some.mp rest
  cases rest
  rw [result_whole, Option.map_eq_some_iff] at first
  obtain ⟨⟨source', length⟩, taken, same⟩ := first
  obtain ⟨rfl, rfl⟩ := Prod.mk.inj same
  rw [result_mark] at slash
  split at slash
  · rename_i front
    obtain ⟨more, left⟩ := List.isPrefixOf_iff_prefix.mp front
    exact ⟨_, (sourceEnds_of_takeSource taken left.symm).2⟩
  · cases slash

/-- **Every pattern test that is read has such a source.** -/
theorem gives_test : Gives test WrittenTest.Sourced := by
  have trivially : ∀ {reader : Reader (List Char)} {f : List Char → WrittenTest},
      (∀ name, (f name).Sourced) → Gives (do return f (← reader)) WrittenTest.Sourced :=
    fun sourced => gives_bind fun name => gives_pure (sourced name)
  refine gives_firstOf ?_
  simp only [List.forall_mem_cons]
  refine ⟨?_, ?_, ?_, ?_, ?_, ?_, ?_, List.forall_mem_nil _⟩
  · exact .named .patternTest (gives_bind fun _ => gives_bind fun _ => gives_bind fun _ =>
      gives_bind fun _ => gives_patternLiteral.bind fun _ ends => gives_pure ends)
  · exact .named .notInTest (gives_bind fun _ => gives_bind fun _ => gives_bind fun _ =>
      gives_bind fun _ => gives_bind fun _ => gives_bind fun _ => trivially fun _ => trivial)
  · exact .named .inTest (gives_bind fun _ => gives_bind fun _ => gives_bind fun _ =>
      gives_bind fun _ => trivially fun _ => trivial)
  · exact .named .comparison (gives_bind fun _ => gives_bind fun _ => gives_bind fun _ =>
      gives_bind fun _ => gives_bind fun _ => gives_pure trivial)
  · exact gives_bind fun _ => gives_pure trivial
  · exact gives_bind fun _ => gives_pure trivial
  · exact .named .keyTest (trivially fun _ => trivial)

end WhenClause.Grammar

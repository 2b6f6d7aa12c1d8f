/-
**Trees, and the texts that write them.**

A `Sentence` is an expression as a tree: constants, tests, negations and joins. `Writes` says which
texts write a sentence at a place of the grammar, its `Phrase`. Parentheses may stand around every
part, and must stand where the place allows nothing but a test; any gaps may stand between tokens. A
join may also be written within the same join without parentheses.

* `Reads` says which formulas stand for a sentence at its place. Each rule belongs to one of
  `Writes`.
* `Writes.begins`: what a text other than the rest of a join begins with.
-/

import WhenClause.Proofs.TestText

namespace WhenClause.Grammar

/-! ### Joins and marks -/

/-- How the parts of a join are joined. -/
inductive Join where
  | all
  | any
  deriving DecidableEq, Repr

namespace Join

/-- The mark between two parts. -/
def mark : Join → List Char
  | all => ['&', '&']
  | any => ['|', '|']

/-- The formula of joined formulas. -/
def formula : Join → List Formula → Formula
  | all => .all
  | any => .any

/-- The characters that may follow a part, apart from a gap. -/
def ends : Join → List Char
  | all => [')', '&', '|']
  | any => [')', '|']

end Join

/-- So many marks of negation with gaps behind them. -/
inductive Marks : Nat → List Char → Prop where
  | none : Marks 0 []
  | mark {count : Nat} {gap text : List Char} (only : Gap gap) (marks : Marks count text) :
      Marks (count + 1) ('!' :: (gap ++ text))

section Begins

variable {text : List Char}

/-- A phrase is not empty, and begins with nothing that may end one. -/
def Begins (text : List Char) : Prop := ∃ c rest, text = c :: rest ∧ isGap c = false

theorem Begins.settled (begins : Begins text) (rest : List Char) : Settled (text ++ rest) := by
  obtain ⟨c, tail, rfl, noGap⟩ := begins
  exact settled_cons noGap

theorem Begins.length_pos (begins : Begins text) : 0 < text.length := by
  obtain ⟨c, rest, rfl, -⟩ := begins
  exact Nat.succ_pos _

theorem Begins.append (begins : Begins text) (rest : List Char) : Begins (text ++ rest) := by
  obtain ⟨c, tail, rfl, noGap⟩ := begins
  exact ⟨c, tail ++ rest, rfl, noGap⟩

theorem BeginsWord.begins (begins : BeginsWord text) : Begins text := by
  obtain ⟨c, rest, rfl, -⟩ := id begins
  exact ⟨c, rest, rfl, begins.settled c rfl⟩

end Begins

variable [PatternEngine]

/-! ### Trees -/

/-- An expression as a tree. -/
inductive Sentence where
  | constant (value : Bool)
  | literal (literal : Literal)
  | negation (body : Sentence)
  | joined (join : Join) (parts : List Sentence)

/-- A sentence behind so many marks of negation. -/
def negations : Nat → Sentence → Sentence
  | 0, sentence => sentence
  | count + 1, sentence => .negation (negations count sentence)

/-! ### Texts -/

/-- A sentence at a place of the grammar. -/
inductive Phrase where
  /-- A test or a group. -/
  | primary (sentence : Sentence)
  /-- A test or a group behind marks of negation. -/
  | unary (sentence : Sentence)
  /-- One part of a join, or parts with marks between them. -/
  | joined (join : Join) (sentence : Sentence)
  /-- Parts of a join, each with a mark before it. -/
  | more (join : Join) (sentences : List Sentence)

/-- The texts that write a phrase with groups nested at most so deep. -/
inductive Writes : Nat → Phrase → List Char → Prop where
  | constant {depth : Nat} (value : Bool) :
      Writes depth (.primary (.constant value)) (Value.booleanText value).toList
  | test {depth : Nat} {literal : Literal} {text : List Char} (isTest : TestText literal text) :
      Writes depth (.primary (.literal literal)) text
  | group {depth : Nat} {sentence : Sentence} {before inner behind : List Char}
      (only : Gap before) (writes : Writes depth (.joined .any sentence) inner)
      (only' : Gap behind) :
      Writes (depth + 1) (.primary sentence) ('(' :: (before ++ (inner ++ (behind ++ [')']))))
  | unary {depth count : Nat} {sentence : Sentence} {before text : List Char}
      (marks : Marks count before) (writes : Writes depth (.primary sentence) text) :
      Writes depth (.unary (negations count sentence)) (before ++ text)
  | conjunct {depth : Nat} {sentence : Sentence} {text : List Char}
      (writes : Writes depth (.unary sentence) text) : Writes depth (.joined .all sentence) text
  | alternative {depth : Nat} {sentence : Sentence} {text : List Char}
      (writes : Writes depth (.joined .all sentence) text) :
      Writes depth (.joined .any sentence) text
  | join {depth : Nat} {join : Join} {sentence : Sentence} {sentences : List Sentence}
      {text text' : List Char} (first : Writes depth (.joined join sentence) text)
      (rest : Writes depth (.more join sentences) text') :
      Writes depth (.joined join (.joined join (sentence :: sentences))) (text ++ text')
  | none {depth : Nat} {join : Join} : Writes depth (.more join []) []
  | part {depth : Nat} {join : Join} {sentence : Sentence} {sentences : List Sentence}
      {before behind text text' : List Char} (only : Gap before) (only' : Gap behind)
      (first : Writes depth (.joined join sentence) text)
      (rest : Writes depth (.more join sentences) text') :
      Writes depth (.more join (sentence :: sentences))
        (before ++ (join.mark ++ (behind ++ (text ++ text'))))

/-- A test or a group is also a part of a join. -/
theorem Writes.joined_of_primary {depth : Nat} {sentence : Sentence} {text : List Char}
    (writes : Writes depth (.primary sentence) text) :
    ∀ join : Join, Writes depth (.joined join sentence) text
  | .all => .conjunct (.unary .none writes)
  | .any => .alternative (.conjunct (.unary .none writes))

/-! ### Formulas -/

/-- The formulas that stand for a phrase with groups nested at most so deep: the only one of a test
or a group, and those of all parts of a join. -/
inductive Reads : Nat → List Formula → Phrase → Prop where
  | constant {depth : Nat} (value : Bool) :
      Reads depth [.test (.constant value)] (.primary (.constant value))
  | test {depth : Nat} {written : WrittenTest} {literal : Literal}
      (builds : ∀ facts source,
        written.build facts source = .ok (Expression.ofLiteral facts literal)) :
      Reads depth [.test written] (.primary (.literal literal))
  | group {depth : Nat} {parts : List Formula} {sentence : Sentence}
      (reads : Reads depth parts (.joined .any sentence)) :
      Reads (depth + 1) [.any parts] (.primary sentence)
  | unary {depth : Nat} {formula : Formula} {sentence : Sentence} (count : Nat)
      (reads : Reads depth [formula] (.primary sentence)) :
      Reads depth [negated count formula] (.unary (negations count sentence))
  | conjunct {depth : Nat} {formula : Formula} {sentence : Sentence}
      (reads : Reads depth [formula] (.unary sentence)) :
      Reads depth [formula] (.joined .all sentence)
  | alternative {depth : Nat} {parts : List Formula} {sentence : Sentence}
      (reads : Reads depth parts (.joined .all sentence)) :
      Reads depth [.all parts] (.joined .any sentence)
  | join {depth : Nat} {join : Join} {parts parts' : List Formula} {sentence : Sentence}
      {sentences : List Sentence} (first : Reads depth parts (.joined join sentence))
      (rest : Reads depth parts' (.more join sentences)) :
      Reads depth (parts ++ parts') (.joined join (.joined join (sentence :: sentences)))
  | none {depth : Nat} {join : Join} : Reads depth [] (.more join [])
  | part {depth : Nat} {join : Join} {parts parts' : List Formula} {sentence : Sentence}
      {sentences : List Sentence} (first : Reads depth parts (.joined join sentence))
      (rest : Reads depth parts' (.more join sentences)) :
      Reads depth (parts ++ parts') (.more join (sentence :: sentences))

/-! ### What texts begin with -/

section Begins

variable {depth : Nat} {join : Join} {sentence : Sentence} {sentences : List Sentence}
  {text rest : List Char}

/-- A test or a group begins with a word, a quote or a parenthesis. -/
theorem Writes.primary_begins (writes : Writes depth (.primary sentence) text) :
    BeginsWord text ∨ ∃ inner, text = '(' :: inner := by
  cases writes with
  | constant value => exact .inl (ValueText.boolean value).beginsWord
  | test isTest => exact .inl isTest.beginsWord
  | group => exact .inr ⟨_, rfl⟩

theorem Writes.begins_primary (writes : Writes depth (.primary sentence) text) : Begins text := by
  rcases writes.primary_begins with begins | ⟨inner, rfl⟩
  · exact begins.begins
  · exact ⟨'(', inner, rfl, by decide⟩

theorem Writes.begins_unary (writes : Writes depth (.unary sentence) text) : Begins text := by
  cases writes with
  | unary marks writes =>
    cases marks with
    | none => exact writes.begins_primary
    | mark => exact ⟨'!', _, rfl, by decide⟩

theorem Writes.begins_joined (writes : Writes depth (.joined join sentence) text) :
    Begins text := by
  generalize same : Phrase.joined join sentence = phrase at writes
  induction writes generalizing join sentence with
  | conjunct writes => exact writes.begins_unary
  | alternative _ ih => exact ih rfl
  | join _ _ ih =>
    cases same
    exact (ih rfl).append _
  | _ => cases same

/-- Behind a part stands what may follow one: the next part's mark, or what follows all parts. -/
theorem Writes.follows (writes : Writes depth (.more join sentences) text)
    (follows : Follows join.ends rest) : Follows join.ends (text ++ rest) := by
  cases writes with
  | none => exact follows
  | part only =>
    unfold Follows
    rw [List.append_assoc, only.dropWhile_append]
    cases join <;>
    · rintro _ ⟨⟩
      decide

end Begins

end WhenClause.Grammar

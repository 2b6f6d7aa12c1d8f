/-
**What sentences mean.**

A sentence has an expression, built from its tests upwards by the constructors, negation and joins
without a limit. `Sentence.value` is its truth value, read off the tree.

* `value_expression`: without NaN both agree;
* `Reads.settles`: building a formula that stands for a sentence, within any limit, gives an
  expression with the value of the sentence, unless it takes too many clauses;
* `build_persists`: within a greater limit a formula has the same outcome, unless it took too many
  clauses;
* `Reads.ends`: and within some limit, hence within all greater ones, it does not.
-/

import WhenClause.Proofs.Equivalence
import WhenClause.Proofs.Negation
import WhenClause.Proofs.Phrase

namespace WhenClause

open Expression Grammar

/-! ### Truth values and outcomes -/

namespace Grammar

namespace Join

/-- The truth value of a join. -/
def value : Join → List Bool → Bool
  | all, values => values.all id
  | any, values => values.any id

theorem value_append (join : Join) (left right : List Bool) :
    join.value (left ++ right) = join.value [join.value left, join.value right] := by
  cases join <;> simp [value]

theorem value_singleton (join : Join) (holds : Bool) : join.value [holds] = holds := by
  cases join <;> simp [value]

theorem value_cons (join : Join) (first : Bool) (rest : List Bool) :
    join.value (first :: rest) = join.value [first, join.value rest] := by
  cases join <;> simp [value]

end Join

/-- An outcome is as it should be, unless there were too many clauses. -/
def Settles {α : Type} (outcome : Except ParseError α) (good : α → Prop) : Prop :=
  (∃ value, outcome = .ok value ∧ good value) ∨
    ∃ error, outcome = .error (.ofTooManyClauses error)

theorem Settles.bind {α β : Type} {first : Except ParseError α} {next : α → Except ParseError β}
    {good : α → Prop} {good' : β → Prop} (settles : Settles first good)
    (settles' : ∀ value, first = .ok value → good value → Settles (next value) good') :
    Settles (first >>= next) good' := by
  rcases settles with ⟨value, same, holds⟩ | ⟨error, same⟩
  · rcases settles' value same holds with ⟨value', same', holds'⟩ | ⟨error, same'⟩
    · exact .inl ⟨value', bind_eq_ok.mpr ⟨value, same, same'⟩, holds'⟩
    · exact .inr ⟨error, by rw [same]; exact same'⟩
  · exact .inr ⟨error, by rw [same]; rfl⟩

/-- An outcome is the same within a greater limit, unless too many clauses stopped it. -/
def Persists {α : Type} (outcome outcome' : Except ParseError α) : Prop :=
  outcome' = outcome ∨ ∃ error, outcome = .error (.ofTooManyClauses error)

theorem Persists.bind {α β : Type} {outcome outcome' : Except ParseError α}
    {next next' : α → Except ParseError β} (persists : Persists outcome outcome')
    (persists' : ∀ value, Persists (next value) (next' value)) :
    Persists (outcome >>= next) (outcome' >>= next') := by
  rcases persists with rfl | ⟨error, rfl⟩
  · cases outcome' with
    | ok value => exact persists' value
    | error _ => exact .inl rfl
  · exact .inr ⟨error, rfl⟩

theorem Persists.eq_ok {α : Type} {outcome outcome' : Except ParseError α} {value : α}
    (persists : Persists outcome outcome') (run : outcome = .ok value) : outcome' = .ok value := by
  rcases persists with same | ⟨error, stopped⟩
  · exact same.trans run
  · cases stopped.symm.trans run

end Grammar

variable [PatternEngine]
variable {facts : Facts} {join : Join} {sentence : Sentence} {sentences : List Sentence}
  {operands : List Expression} {result : Expression}
  {formula : Formula} {formulas : List Formula} {phrase : Phrase} {source : List Char}
  {limit limit' depth : Nat}

/-! ### Joins -/

namespace Grammar.Join

/-- The join of expressions. -/
def expression : Join → List Expression → Expression
  | all => conj
  | any => disj

/-- The join of expressions within a limit. -/
def expressionWithin (limit : Nat) : Join → List Expression → Except TooManyClauses Expression
  | all => conjWithin limit
  | any => disjWithin limit

/-- A join within a limit has the value of its operands together. -/
theorem value_expressionWithin (assignment : Assignment)
    (consistent : ∀ operand ∈ operands, ∀ clause ∈ operand.clauses, clause.Consistent)
    (run : join.expressionWithin limit operands = .ok result) :
    result.value assignment = join.value (operands.map (·.value assignment)) := by
  cases join with
  | all => rw [value_conjWithin assignment run, value, List.all_map]; rfl
  | any => rw [value_disjWithin assignment consistent run, value, List.any_map]; rfl

/-- Without NaN a join is taken within every limit that is great enough. -/
theorem expressionWithin_eq (nanFree : ∀ operand ∈ operands, operand.NaNFree)
    (room : ceiling operands ≤ limit) :
    join.expressionWithin limit operands = .ok (join.expression operands) := by
  cases join with
  | all => exact conjWithin_eq_conj nanFree room
  | any => exact disjWithin_eq_disj nanFree room

end Grammar.Join

/-! ### Sentences -/

namespace Grammar

mutual

/-- The expression of a sentence, built from its tests upwards. -/
def Sentence.expression (facts : Facts) : Sentence → Expression
  | .constant holds => ofBool holds
  | .literal asked => ofLiteral facts asked
  | .negation body => (body.expression facts).negate facts
  | .joined join parts => join.expression (Sentence.expressions facts parts)

def Sentence.expressions (facts : Facts) : List Sentence → List Expression
  | [] => []
  | part :: parts => part.expression facts :: Sentence.expressions facts parts

end

mutual

/-- The truth value of a sentence. -/
def Sentence.value (facts : Facts) : Sentence → Assignment → Bool
  | .constant holds, _ => holds
  | .literal asked, assignment => (ofLiteral facts asked).value assignment
  | .negation body, assignment => !body.value facts assignment.dual
  | .joined join parts, assignment => join.value (Sentence.values facts parts assignment)

def Sentence.values (facts : Facts) : List Sentence → Assignment → List Bool
  | [], _ => []
  | part :: parts, assignment =>
    part.value facts assignment :: Sentence.values facts parts assignment

end

mutual

/-- No test of a sentence names NaN. -/
def Sentence.NaNFree : Sentence → Prop
  | .constant _ => True
  | .literal asked => asked.hasNaN = false
  | .negation body => body.NaNFree
  | .joined _ parts => Sentence.AllNaNFree parts

def Sentence.AllNaNFree : List Sentence → Prop
  | [] => True
  | part :: parts => part.NaNFree ∧ Sentence.AllNaNFree parts

end

end Grammar

/-! ### The expression of a sentence -/

theorem value_ofBool (value : Bool) (assignment : Assignment) :
    (ofBool value).value assignment = value := by
  cases value <;> rfl

mutual

theorem built_expression (facts : Facts) : ∀ sentence : Sentence,
    Built (· = facts) (sentence.expression facts)
  | .constant holds => .constant holds
  | .literal asked => @Built.literal _ (· = facts) facts rfl asked
  | .negation body => Built.negate rfl (built_expression facts body)
  | .joined .all parts => Built.conj (built_expressions facts parts)
  | .joined .any parts => Built.disj (built_expressions facts parts)

theorem built_expressions (facts : Facts) : ∀ sentences : List Sentence,
    ∀ operand ∈ Sentence.expressions facts sentences, Built (· = facts) operand
  | [] => List.forall_mem_nil _
  | part :: parts =>
    List.forall_mem_cons.mpr ⟨built_expression facts part, built_expressions facts parts⟩

end

mutual

theorem nanFree_expression (facts : Facts) : ∀ sentence : Sentence, sentence.NaNFree →
    (sentence.expression facts).NaNFree
  | .constant holds, _ => nanFree_ofBool holds
  | .literal _, nanFree => nanFree_ofLiteral facts nanFree
  | .negation body, nanFree => kept_nanFree.negate trivial (nanFree_expression facts body nanFree)
  | .joined .all parts, nanFree => kept_nanFree.conj (nanFree_expressions facts parts nanFree)
  | .joined .any parts, nanFree => kept_nanFree.disj (nanFree_expressions facts parts nanFree)

theorem nanFree_expressions (facts : Facts) : ∀ sentences : List Sentence,
    Sentence.AllNaNFree sentences →
      ∀ operand ∈ Sentence.expressions facts sentences, operand.NaNFree
  | [], _ => List.forall_mem_nil _
  | part :: parts, nanFree => List.forall_mem_cons.mpr
      ⟨nanFree_expression facts part nanFree.1, nanFree_expressions facts parts nanFree.2⟩

end

mutual

/-- **The expression of a sentence has the value of the sentence.** -/
theorem value_expression (facts : Facts) : ∀ (sentence : Sentence) (_ : sentence.NaNFree)
    (assignment : Assignment),
    (sentence.expression facts).value assignment = sentence.value facts assignment
  | .constant holds, _, assignment => value_ofBool holds assignment
  | .literal _, _, _ => rfl
  | .negation body, nanFree, assignment => by
    rw [Sentence.expression, value_negate assignment (built_expression facts body).free
      (nanFree_expression facts body nanFree), value_expression facts body nanFree, Sentence.value]
  | .joined join parts, nanFree, assignment => by
    have nanFree' := nanFree_expressions facts parts nanFree
    rw [Sentence.expression, Join.value_expressionWithin assignment
      (fun operand among => (built_expressions facts parts operand among).formed.consistent)
      (Join.expressionWithin_eq nanFree' (Nat.le_refl _)), value_expressions facts parts nanFree,
      Sentence.value]

theorem value_expressions (facts : Facts) : ∀ (sentences : List Sentence)
    (_ : Sentence.AllNaNFree sentences) (assignment : Assignment),
    (Sentence.expressions facts sentences).map (·.value assignment) =
      Sentence.values facts sentences assignment
  | [], _, _ => rfl
  | part :: parts, nanFree, assignment => by
    rw [Sentence.expressions, List.map_cons, value_expression facts part nanFree.1,
      value_expressions facts parts nanFree.2, Sentence.values]

end

/-! ### Building formulas -/

namespace Grammar

theorem settles_withinClauses {outcome : Except TooManyClauses Expression}
    {good : Expression → Prop} (each : ∀ result, outcome = .ok result → good result) :
    Settles (withinClauses outcome) good := by
  cases outcome with
  | ok result => exact .inl ⟨result, rfl, each result rfl⟩
  | error error => exact .inr ⟨error, rfl⟩

theorem build_formula (join : Join) (formulas : List Formula) :
    (join.formula formulas).build facts limit source =
      Formula.buildAll facts limit source formulas >>= fun results =>
        withinClauses (join.expressionWithin limit results) := by
  cases join <;> rw [Join.formula, Formula.build] <;> rfl

theorem buildAll_singleton (formula : Formula) :
    Formula.buildAll facts limit source [formula] =
      formula.build facts limit source >>= fun result => .ok [result] := by
  rw [Formula.buildAll]
  rfl

/-- What formulas build together builds their join. -/
theorem build_join (join : Join) {results : List Expression}
    (run : Formula.buildAll facts limit source formulas = .ok results)
    (joins : join.expressionWithin limit results = .ok result) :
    (join.formula formulas).build facts limit source = .ok result := by
  rw [build_formula, run]
  show withinClauses (join.expressionWithin limit results) = _
  rw [joins]
  rfl

theorem buildAll_join (join : Join) {results : List Expression}
    (run : Formula.buildAll facts limit source formulas = .ok results)
    (joins : join.expressionWithin limit results = .ok result) :
    Formula.buildAll facts limit source [join.formula formulas] = .ok [result] := by
  rw [buildAll_singleton, build_join join run joins]
  rfl

theorem buildAll_append (formulas formulas' : List Formula) :
    Formula.buildAll facts limit source (formulas ++ formulas') =
      Formula.buildAll facts limit source formulas >>= fun results =>
        Formula.buildAll facts limit source formulas' >>= fun results' =>
          .ok (results ++ results') := by
  induction formulas with
  | nil =>
    rw [List.nil_append, Formula.buildAll]
    cases Formula.buildAll facts limit source formulas' <;> rfl
  | cons formula formulas ih =>
    rw [List.cons_append, Formula.buildAll, Formula.buildAll, ih]
    cases formula.build facts limit source with
    | error _ => rfl
    | ok result =>
      cases Formula.buildAll facts limit source formulas with
      | error _ => rfl
      | ok results =>
        cases Formula.buildAll facts limit source formulas' <;> rfl

/-- The values of expressions that formulas of a phrase may build. -/
def Phrase.Holds (facts : Facts) (assignment : Assignment) (values : List Bool) : Phrase → Prop
  | .primary sentence | .unary sentence => values = [sentence.value facts assignment]
  | .joined join sentence => join.value values = sentence.value facts assignment
  | .more join sentences =>
    join.value values = join.value (Sentence.values facts sentences assignment)

theorem value_negations (facts : Facts) (count : Nat) (sentence : Sentence)
    (assignment : Assignment) :
    (negations count sentence).value facts assignment =
      if count % 2 = 1 then !sentence.value facts assignment.dual
      else sentence.value facts assignment := by
  induction count generalizing assignment with
  | zero => rfl
  | succ count ih =>
    rw [negations, Sentence.value, ih, Assignment.dual_dual]
    by_cases odd : count % 2 = 1
    · rw [if_pos odd, if_neg (by omega), Bool.not_not]
    · rw [if_neg odd, if_pos (by omega)]

/-- Building one formula settles on the value of its only result. -/
theorem settles_build_of_buildAll {good : Expression → Prop}
    (settles : Settles (Formula.buildAll facts limit source [formula])
      fun results => ∀ result, results = [result] → good result) :
    Settles (formula.build facts limit source) good := by
  rw [buildAll_singleton] at settles
  cases run : formula.build facts limit source with
  | ok result =>
    rw [run] at settles
    rcases settles with ⟨results, same, holds⟩ | ⟨error, same⟩
    · cases same
      exact .inl ⟨result, rfl, holds result rfl⟩
    · cases same
  | error error =>
    rw [run] at settles
    rcases settles with ⟨results, same, -⟩ | ⟨error, same⟩
    · cases same
    · cases same
      exact .inr ⟨_, rfl⟩

theorem settles_buildAll_singleton {good : List Expression → Prop}
    (settles : Settles (formula.build facts limit source) fun result => good [result]) :
    Settles (Formula.buildAll facts limit source [formula]) good := by
  rw [buildAll_singleton]
  exact settles.bind fun result _ holds => .inl ⟨[result], rfl, holds⟩

/-- The join of formulas has the value of what they build together. -/
theorem settles_formula {good : Assignment → Bool}
    (settles : Settles (Formula.buildAll facts limit source formulas) fun results =>
      ∀ assignment, join.value (results.map (·.value assignment)) = good assignment) :
    Settles (Formula.buildAll facts limit source [join.formula formulas]) fun results =>
      ∀ assignment, results.map (·.value assignment) = [good assignment] := by
  refine settles_buildAll_singleton ?_
  rw [build_formula]
  refine settles.bind fun results run holds => settles_withinClauses fun result joins => ?_
  have consistent : ∀ operand ∈ results, ∀ clause ∈ operand.clauses, clause.Consistent :=
    fun operand among => (kept_formed.formulas trivial formulas run operand among).consistent
  intro assignment
  rw [List.map_singleton, Join.value_expressionWithin assignment consistent joins, holds]

/-- A formula behind marks of negation. -/
theorem settles_negated (count : Nat) {sentence : Sentence}
    (settles : Settles (formula.build facts limit source) fun result =>
      ∀ assignment, result.value assignment = sentence.value facts assignment) :
    Settles ((negated count formula).build facts limit source) fun result =>
      ∀ assignment, result.value assignment = (negations count sentence).value facts assignment := by
  unfold negated
  by_cases odd : count % 2 = 1
  · rw [if_pos odd, Formula.build]
    refine settles.bind fun body run holds => settles_withinClauses fun result negates => ?_
    intro assignment
    rw [value_of_negateWithin assignment (kept_free.formula rfl formula run) negates, holds,
      value_negations, if_pos odd]
  · rw [if_neg odd]
    simpa only [value_negations, if_neg odd] using settles

/-- **Formulas build expressions with the values of the phrase that they stand for**, unless that
takes too many clauses. -/
theorem Reads.settles (reads : Reads depth formulas phrase) (facts : Facts) (limit : Nat)
    (source : List Char) :
    Settles (Formula.buildAll facts limit source formulas) fun results =>
      ∀ assignment, phrase.Holds facts assignment (results.map (·.value assignment)) := by
  induction reads with
  | constant holds =>
    refine settles_buildAll_singleton (.inl ⟨ofBool holds, by rw [Formula.build]; rfl, ?_⟩)
    intro assignment
    rw [Phrase.Holds, List.map_singleton, value_ofBool, Sentence.value]
  | @test _ written literal builds =>
    exact settles_buildAll_singleton (.inl ⟨ofLiteral facts literal,
      by rw [Formula.build]; exact builds facts source, fun _ => rfl⟩)
  | group _ ih => exact settles_formula ih
  | @unary _ formula sentence count _ ih =>
    refine settles_buildAll_singleton ?_
    have settles : Settles (formula.build facts limit source) fun result =>
        ∀ assignment, result.value assignment = sentence.value facts assignment := by
      refine settles_build_of_buildAll ?_
      rcases ih with ⟨results, run, holds⟩ | error
      · refine .inl ⟨results, run, ?_⟩
        rintro result rfl assignment
        exact (List.cons.inj (holds assignment)).1
      · exact .inr error
    rcases settles_negated count settles with ⟨result, run, holds⟩ | error
    · refine .inl ⟨result, run, fun assignment => ?_⟩
      rw [Phrase.Holds, List.map_singleton, holds]
    · exact .inr error
  | conjunct _ ih =>
    rcases ih with ⟨results, run, holds⟩ | error
    · refine .inl ⟨results, run, fun assignment => ?_⟩
      rw [Phrase.Holds, holds assignment, Join.value_singleton]
    · exact .inr error
  | alternative _ ih =>
    rcases settles_formula ih with ⟨results, run, holds⟩ | error
    · refine .inl ⟨results, run, fun assignment => ?_⟩
      rw [Phrase.Holds, holds assignment, Join.value_singleton]
    · exact .inr error
  | @join _ join parts parts' sentence sentences _ _ ih ih' =>
    rw [buildAll_append]
    refine ih.bind fun results _ holds => ih'.bind fun results' _ holds' => .inl ⟨_, rfl, ?_⟩
    intro assignment
    rw [Phrase.Holds, List.map_append, Join.value_append, holds assignment, holds' assignment,
      Sentence.value, Sentence.values]
    exact (Join.value_cons join _ _).symm
  | none => exact .inl ⟨[], by rw [Formula.buildAll], fun assignment => rfl⟩
  | @part _ join parts parts' sentence sentences _ _ ih ih' =>
    rw [buildAll_append]
    refine ih.bind fun results _ holds => ih'.bind fun results' _ holds' => .inl ⟨_, rfl, ?_⟩
    intro assignment
    rw [Phrase.Holds, List.map_append, Join.value_append, holds assignment, holds' assignment,
      Sentence.values]
    exact (Join.value_cons join _ _).symm

/-! ### Formulas within greater limits -/

theorem persists_withinClauses {outcome outcome' : Except TooManyClauses Expression}
    (mono : ∀ result, outcome = .ok result → outcome' = .ok result) :
    Persists (withinClauses outcome) (withinClauses outcome') := by
  cases run : outcome with
  | ok result => exact .inl (by rw [mono result run])
  | error error => exact .inr ⟨error, rfl⟩

mutual

/-- **What becomes of a formula within a limit becomes of it within every greater one**, an error of
its tests included. -/
theorem build_persists (le : limit ≤ limit') : ∀ formula : Formula,
    Persists (formula.build facts limit source) (formula.build facts limit' source)
  | .test written => by
    rw [Formula.build, Formula.build]
    exact .inl rfl
  | .negation body => by
    rw [Formula.build, Formula.build]
    exact (build_persists le body).bind fun _ =>
      persists_withinClauses fun _ => negateWithin_mono le
  | .all parts => by
    rw [Formula.build, Formula.build]
    exact (buildAll_persists le parts).bind fun _ =>
      persists_withinClauses fun _ => conjWithin_mono le
  | .any parts => by
    rw [Formula.build, Formula.build]
    exact (buildAll_persists le parts).bind fun _ =>
      persists_withinClauses fun _ => disjWithin_mono le

theorem buildAll_persists (le : limit ≤ limit') : ∀ parts : List Formula,
    Persists (Formula.buildAll facts limit source parts)
      (Formula.buildAll facts limit' source parts)
  | [] => by
    rw [Formula.buildAll, Formula.buildAll]
    exact .inl rfl
  | part :: parts => by
    rw [Formula.buildAll, Formula.buildAll]
    exact (build_persists le part).bind fun _ => (buildAll_persists le parts).bind fun _ => .inl rfl

end

theorem build_mono (le : limit ≤ limit') (formula : Formula)
    (run : formula.build facts limit source = .ok result) :
    formula.build facts limit' source = .ok result :=
  (build_persists le formula).eq_ok run

theorem buildAll_mono (le : limit ≤ limit') (parts : List Formula) {results : List Expression}
    (run : Formula.buildAll facts limit source parts = .ok results) :
    Formula.buildAll facts limit' source parts = .ok results :=
  (buildAll_persists le parts).eq_ok run

/-- The join of formulas ends within some limit if the formulas do. -/
theorem formula_ends (join : Join)
    (ends : ∃ limit results, Formula.buildAll facts limit source formulas = .ok results) :
    ∃ limit results, Formula.buildAll facts limit source [join.formula formulas] = .ok results := by
  obtain ⟨limit, results, run⟩ := ends
  have nanFree := kept_nanFree.formulas trivial formulas run
  exact ⟨max limit (ceiling results), [join.expression results],
    buildAll_join join (buildAll_mono (Nat.le_max_left _ _) formulas run)
      (Join.expressionWithin_eq nanFree (Nat.le_max_right _ _))⟩

theorem append_ends {formulas' : List Formula}
    (ends : ∃ limit results, Formula.buildAll facts limit source formulas = .ok results)
    (ends' : ∃ limit results, Formula.buildAll facts limit source formulas' = .ok results) :
    ∃ limit results,
      Formula.buildAll facts limit source (formulas ++ formulas') = .ok results := by
  obtain ⟨limit, results, run⟩ := ends
  obtain ⟨limit', results', run'⟩ := ends'
  refine ⟨max limit limit', results ++ results', ?_⟩
  rw [buildAll_append, buildAll_mono (Nat.le_max_left _ _) formulas run,
    buildAll_mono (Nat.le_max_right _ _) formulas' run']
  rfl

/-- **Formulas that stand for a phrase build expressions within some limit.** -/
theorem Reads.ends (reads : Reads depth formulas phrase) (facts : Facts) (source : List Char) :
    ∃ limit results, Formula.buildAll facts limit source formulas = .ok results := by
  induction reads with
  | constant holds =>
    refine ⟨0, [ofBool holds], ?_⟩
    rw [buildAll_singleton, Formula.build]
    rfl
  | @test _ written literal builds =>
    refine ⟨0, [ofLiteral facts literal], ?_⟩
    rw [buildAll_singleton, Formula.build, builds facts source]
    rfl
  | group _ ih => exact formula_ends .any ih
  | @unary _ formula sentence count _ ih =>
    obtain ⟨limit, results, run⟩ := ih
    unfold negated
    split
    · rw [buildAll_singleton] at run
      obtain ⟨body, run, -⟩ := bind_eq_ok.mp run
      obtain ⟨limit', negates⟩ :=
        @negateWithin_ends _ facts _ (kept_nanFree.formula trivial formula run)
      refine ⟨max limit limit', [body.negate facts], ?_⟩
      rw [buildAll_singleton, Formula.build, build_mono (Nat.le_max_left _ _) formula run]
      have negates' := negateWithin_mono (Nat.le_max_right limit limit') negates
      exact bind_eq_ok.mpr ⟨_, bind_eq_ok.mpr ⟨body, rfl, by rw [negates']; rfl⟩, rfl⟩
    · exact ⟨limit, results, run⟩
  | conjunct _ ih => exact ih
  | alternative _ ih => exact formula_ends .all ih
  | join _ _ ih ih' => exact append_ends ih ih'
  | none => exact ⟨0, [], by rw [Formula.buildAll]⟩
  | part _ _ ih ih' => exact append_ends ih ih'

end Grammar

end WhenClause

/-
**What operations on expressions keep.**

Negation, renaming and parsing are literals and joins, nested in various ways. So a property of
expressions is `Kept` by all of them as soon as constants, literals and joins within limits keep it.

* `Kept.negate`, `Kept.rename`, `Kept.parse` and the lemmas before them: every operation keeps such
  a property;
* `kept_nanFree`: that no literal names NaN is one of them;
* `negationEnds`, `renamingEnds`: so without NaN every join that an operation takes returns.
-/

import WhenClause.Parse
import WhenClause.Proofs.Limit

namespace WhenClause

open Expression

/-! ### Tests as they are written -/

namespace Grammar

variable {text : List Char}

/-- A number that is written is finite. -/
theorem isFinite_build {digits : List Char} {extent : Extent} {value : Value}
    (run : (WrittenValue.number digits extent).build text = .ok value) :
    ∃ parsed, value = .number parsed ∧ parsed.isFinite = true := by
  rw [WrittenValue.build] at run
  split at run
  · rename_i parsed found
    cases run
    exact ⟨parsed, rfl, (Option.filter_eq_some_iff.mp found).2⟩
  · cases run

/-- No number is written that is NaN. -/
theorem isNaN_build {written : WrittenValue} {value : Value}
    (run : written.build text = .ok value) : value.isNaN = false := by
  cases written with
  | boolean value => cases run; rfl
  | string value => cases run; rfl
  | number digits extent =>
    obtain ⟨parsed, rfl, finite⟩ := isFinite_build run
    simp only [Double.isFinite, decide_eq_true_eq] at finite
    simp only [Value.isNaN, Double.isNaN, decide_eq_false_iff_not]
    omega

mutual

/-- Every test of a formula is good. -/
def Formula.Each (good : WrittenTest → Prop) : Formula → Prop
  | .test written => good written
  | .negation body => body.Each good
  | .all parts => Formula.EachOf good parts
  | .any parts => Formula.EachOf good parts

def Formula.EachOf (good : WrittenTest → Prop) : List Formula → Prop
  | [] => True
  | part :: parts => part.Each good ∧ Formula.EachOf good parts

end

variable {good : WrittenTest → Prop}

mutual

theorem Formula.each_of_forall (all' : ∀ written, good written) : ∀ formula : Formula,
    formula.Each good
  | .test written => all' written
  | .negation body => body.each_of_forall all'
  | .all parts => Formula.eachOf_of_forall all' parts
  | .any parts => Formula.eachOf_of_forall all' parts

theorem Formula.eachOf_of_forall (all' : ∀ written, good written) : ∀ parts : List Formula,
    Formula.EachOf good parts
  | [] => trivial
  | part :: parts => ⟨part.each_of_forall all', Formula.eachOf_of_forall all' parts⟩

end

end Grammar

variable [PatternEngine]
variable {known : Facts → Prop} {property : Expression → Prop} {facts : Facts}
  {expression result : Expression} {operands : List Expression} {clause : Clause} {limit : Nat}

/-! ### Literals -/

/-- The expression of a test is a constant, or it asks that test or the truth of a key. -/
theorem ofTest_cases (facts : Facts) (question : Test) (holds : Bool) :
    (∃ value, ofTest facts question holds = ofBool value) ∨
      ∃ question' polarity, ofTest facts question holds = single (.test question' polarity) ∧
        (question' = question ∨ ∃ key, question' = .has key) := by
  unfold ofTest
  split
  · split
    · exact Or.inl ⟨_, rfl⟩
    · exact Or.inr ⟨_, _, rfl, Or.inl rfl⟩
  · split
    · exact Or.inl ⟨_, rfl⟩
    · exact Or.inr ⟨_, _, rfl, Or.inr ⟨_, rfl⟩⟩
  · split
    · exact Or.inl ⟨_, rfl⟩
    · exact Or.inr ⟨_, _, rfl, Or.inl rfl⟩
  · exact Or.inr ⟨_, _, rfl, Or.inl rfl⟩

/-- The expression of a literal is a constant or a literal, without NaN if there was none. -/
theorem ofLiteral_cases (facts : Facts) (literal : Literal) :
    (∃ value, ofLiteral facts literal = ofBool value) ∨
      ∃ literal', ofLiteral facts literal = single literal' ∧
        (literal.hasNaN = false → literal'.hasNaN = false) := by
  cases literal with
  | test question holds =>
    rcases ofTest_cases facts question holds with constant | ⟨question', polarity, same, asks⟩
    · exact Or.inl constant
    · refine Or.inr ⟨_, same, fun nanFree => ?_⟩
      rcases asks with rfl | ⟨key, rfl⟩
      · exact nanFree
      · rfl
  | ordered key comparison bound =>
    refine Or.inr ⟨_, rfl, fun nanFree => ?_⟩
    cases bound with
    | boolean value => rfl
    | number value => exact nanFree
    | string value => rfl

/-- A negated literal is the literal that was turned around, but for a comparison's bound. -/
theorem negateLiteral_cases (facts : Facts) (literal : Literal) :
    negateLiteral facts literal = ofLiteral facts literal.opposite ∨
      negateLiteral facts literal = single literal.opposite := by
  cases literal with
  | test question holds => exact Or.inl rfl
  | ordered key comparison bound => exact Or.inr rfl

theorem Literal.hasNaN_opposite (literal : Literal) : literal.opposite.hasNaN = literal.hasNaN := by
  cases literal <;> rfl

theorem Literal.hasNaN_rename (naming : String → String) (literal : Literal) :
    (literal.rename naming).hasNaN = literal.hasNaN := by
  cases literal with
  | test question holds => cases question <;> rfl
  | ordered key comparison bound => rfl

/-! ### Kept properties -/

/-- A property that constants and written literals have, and that the negated and renamed literals
of an expression and joins of expressions inherit, under facts that are known at the time. -/
structure Kept (known : Facts → Prop) (property : Expression → Prop) : Prop where
  constant : ∀ value, property (ofBool value)
  literal : ∀ facts, known facts → ∀ literal : Literal, literal.hasNaN = false →
    property (ofLiteral facts literal)
  negated : ∀ facts, known facts → ∀ expression, property expression →
    ∀ clause ∈ expression.clauses, ∀ literal ∈ clause, property (negateLiteral facts literal)
  renamed : ∀ facts, known facts → ∀ naming expression, property expression →
    ∀ clause ∈ expression.clauses, ∀ literal ∈ clause,
      property (ofLiteral facts (literal.rename naming))
  conjWithin : ∀ {limit operands result}, (∀ operand ∈ operands, property operand) →
    conjWithin limit operands = .ok result → property result
  disjWithin : ∀ {limit operands result}, (∀ operand ∈ operands, property operand) →
    disjWithin limit operands = .ok result → property result

/-- What is kept under all facts is kept under those that are known. -/
theorem Kept.under (kept : Kept (fun _ => True) property) (known : Facts → Prop) :
    Kept known property :=
  { kept with
    literal := fun facts _ => kept.literal facts trivial
    negated := fun facts _ => kept.negated facts trivial
    renamed := fun facts _ => kept.renamed facts trivial }

namespace Kept

variable (kept : Kept known property)

include kept

theorem settle {outcome : Except TooManyClauses Expression}
    (each : ∀ result, outcome = .ok result → property result) :
    property (Expression.settle outcome) := by
  cases outcome with
  | ok result => exact each result rfl
  | error _ => exact kept.constant false

theorem conj (parts : ∀ operand ∈ operands, property operand) :
    property (Expression.conj operands) :=
  kept.settle fun _ run => kept.conjWithin parts run

theorem disj (parts : ∀ operand ∈ operands, property operand) :
    property (Expression.disj operands) :=
  kept.settle fun _ run => kept.disjWithin parts run

theorem negateClause (parts : ∀ literal ∈ clause, property (negateLiteral facts literal)) :
    property (Expression.negateClause facts clause) := by
  unfold Expression.negateClause
  split
  · exact parts _ List.mem_cons_self
  · exact kept.disj (List.forall_mem_map.mpr parts)

theorem negateClauseWithin (parts : ∀ literal ∈ clause, property (negateLiteral facts literal))
    (run : Expression.negateClauseWithin facts limit clause = .ok result) : property result := by
  unfold Expression.negateClauseWithin at run
  split at run
  · cases run
    exact parts _ List.mem_cons_self
  · exact kept.disjWithin (List.forall_mem_map.mpr parts) run

theorem negate (now : known facts) (holds : property expression) :
    property (expression.negate facts) := by
  have clauses : ∀ clause ∈ expression.clauses, property (Expression.negateClause facts clause) :=
    fun clause inside => kept.negateClause (kept.negated facts now expression holds clause inside)
  unfold Expression.negate
  split
  · exact kept.constant true
  · rename_i clause only
    exact clauses clause (by rw [only]; exact List.mem_cons_self)
  · exact kept.conj (List.forall_mem_map.mpr clauses)

theorem negateWithin_of_parts (literals : ∀ clause ∈ expression.clauses, ∀ literal ∈ clause,
      property (negateLiteral facts literal))
    (run : expression.negateWithin facts limit = .ok result) : property result := by
  unfold Expression.negateWithin at run
  split at run
  · cases run
    exact kept.constant true
  · rename_i clause only
    exact kept.negateClauseWithin (literals clause (by rw [only]; exact List.mem_cons_self)) run
  · exact kept.conjWithin (List.forall_mem_map.mpr fun clause inside =>
      kept.negateClause (literals clause inside)) run

theorem negateWithin (now : known facts) (holds : property expression)
    (run : expression.negateWithin facts limit = .ok result) : property result :=
  kept.negateWithin_of_parts (kept.negated facts now expression holds) run

theorem renameClause {naming : String → String}
    (parts : ∀ literal ∈ clause, property (ofLiteral facts (literal.rename naming))) :
    property (Expression.renameClause facts naming clause) := by
  unfold Expression.renameClause
  split
  · exact parts _ List.mem_cons_self
  · exact kept.conj (List.forall_mem_map.mpr parts)

theorem rename (now : known facts) (naming : String → String) (holds : property expression) :
    property (expression.rename facts naming) := by
  have clauses : ∀ clause ∈ expression.clauses,
      property (Expression.renameClause facts naming clause) := fun clause inside =>
    kept.renameClause (kept.renamed facts now naming expression holds clause inside)
  unfold Expression.rename
  split
  · exact kept.constant false
  · rename_i clause only
    exact clauses clause (by rw [only]; exact List.mem_cons_self)
  · exact kept.disj (List.forall_mem_map.mpr clauses)

end Kept

/-! ### Parsing -/

section Parsing

open Grammar

variable {text : List Char}

/-- A test that is built is a constant, or a literal without NaN that all facts build. -/
theorem exists_literal_of_build {written : WrittenTest}
    (run : written.build facts text = .ok result) :
    (∃ holds, ∀ facts, written.build facts text = .ok (ofBool holds)) ∨
      ∃ literal : Literal, literal.hasNaN = false ∧
        ∀ facts, written.build facts text = .ok (ofLiteral facts literal) := by
  cases written with
  | constant holds => exact Or.inl ⟨holds, fun _ => rfl⟩
  | has key => exact Or.inr ⟨.test (.has _) true, rfl, fun _ => rfl⟩
  | member key container => exact Or.inr ⟨.test (.member _ _) true, rfl, fun _ => rfl⟩
  | notMember key container => exact Or.inr ⟨.test (.member _ _) false, rfl, fun _ => rfl⟩
  | matching key source flags extent =>
    rw [WrittenTest.build] at run
    split at run
    · rename_i pattern found
      refine Or.inr ⟨.test (.matching (String.ofList key) pattern) true, rfl, fun facts => ?_⟩
      rw [WrittenTest.build, found]
      rfl
    · cases run
  | compare key operator value =>
    cases read : value.build text with
    | error cause =>
      simp only [WrittenTest.build, read] at run
      cases run
    | ok value =>
      have nanFree := isNaN_build read
      refine Or.inr ?_
      simp only [WrittenTest.build, read]
      cases operator with
      | equal => exact ⟨.test (.equals _ value) true, nanFree, fun _ => rfl⟩
      | differ => exact ⟨.test (.equals _ value) false, nanFree, fun _ => rfl⟩
      | ordered comparison => exact ⟨.ordered _ comparison value, nanFree, fun _ => rfl⟩

theorem withinClauses_eq_ok {outcome : Except TooManyClauses Expression}
    (run : withinClauses outcome = .ok result) : outcome = .ok result := by
  cases outcome with
  | ok result' => cases run; rfl
  | error _ => cases run

namespace Kept

variable (kept : Kept known property)

include kept

theorem writtenTest (now : known facts) {written : WrittenTest}
    (run : written.build facts text = .ok result) : property result := by
  rcases exists_literal_of_build run with ⟨holds, builds⟩ | ⟨literal, nanFree, builds⟩
  · cases run.symm.trans (builds facts)
    exact kept.constant holds
  · cases run.symm.trans (builds facts)
    exact kept.literal facts now literal nanFree

end Kept

/-- A property that the expressions of good tests have, that negated literals inherit under the facts
at hand, and that joins keep. -/
structure KeptFromTests (facts : Facts) (text : List Char) (good : WrittenTest → Prop)
    (property : Expression → Prop) : Prop where
  joins : Kept (fun _ => False) property
  negated : ∀ expression, property expression → ∀ clause ∈ expression.clauses, ∀ literal ∈ clause,
    property (negateLiteral facts literal)
  tests : ∀ written result, good written → written.build facts text = .ok result → property result

theorem Kept.fromTests (kept : Kept known property) (now : known facts) (text : List Char) :
    KeptFromTests facts text (fun _ => True) property where
  joins := { kept with
    literal := nofun
    negated := nofun
    renamed := nofun }
  negated := kept.negated facts now
  tests _ _ _ run := kept.writtenTest now run

section Formulas

variable {good : WrittenTest → Prop}

mutual

/-- **The expression of a formula with good tests has such a property.** -/
theorem KeptFromTests.formula (kept : KeptFromTests facts text good property) :
    ∀ (formula : Formula) {result : Expression}, formula.Each good →
      formula.build facts limit text = .ok result → property result
  | .test written, result, each, run => by
    rw [Formula.build] at run
    exact kept.tests written result each run
  | .negation body, result, each, run => by
    rw [Formula.build] at run
    obtain ⟨expression, first, rest⟩ := bind_eq_ok.mp run
    have literals := kept.negated expression (KeptFromTests.formula kept body each first)
    exact kept.joins.negateWithin_of_parts literals (withinClauses_eq_ok rest)
  | .all parts, result, each, run => by
    rw [Formula.build] at run
    obtain ⟨expressions, first, rest⟩ := bind_eq_ok.mp run
    exact kept.joins.conjWithin (KeptFromTests.formulas kept parts each first)
      (withinClauses_eq_ok rest)
  | .any parts, result, each, run => by
    rw [Formula.build] at run
    obtain ⟨expressions, first, rest⟩ := bind_eq_ok.mp run
    exact kept.joins.disjWithin (KeptFromTests.formulas kept parts each first)
      (withinClauses_eq_ok rest)

theorem KeptFromTests.formulas (kept : KeptFromTests facts text good property) :
    ∀ (parts : List Formula) {results : List Expression}, Formula.EachOf good parts →
      Formula.buildAll facts limit text parts = .ok results → ∀ result ∈ results, property result
  | [], results, _, run => by
    rw [Formula.buildAll] at run
    cases run
    exact nofun
  | part :: parts, results, each, run => by
    rw [Formula.buildAll] at run
    obtain ⟨expression, first, rest⟩ := bind_eq_ok.mp run
    obtain ⟨expressions, others, same⟩ := bind_eq_ok.mp rest
    cases same
    exact List.forall_mem_cons.mpr ⟨KeptFromTests.formula kept part each.1 first,
      KeptFromTests.formulas kept parts each.2 others⟩

end

end Formulas

/-- **The expression of a formula has every kept property.** -/
theorem Kept.formula (kept : Kept known property) (now : known facts) (formula : Formula)
    (run : formula.build facts limit text = .ok result) : property result :=
  (kept.fromTests now text).formula formula (formula.each_of_forall fun _ => trivial) run

theorem Kept.formulas (kept : Kept known property) (now : known facts) (parts : List Formula)
    {results : List Expression} (run : Formula.buildAll facts limit text parts = .ok results) :
    ∀ result ∈ results, property result :=
  (kept.fromTests now text).formulas parts (Formula.eachOf_of_forall (fun _ => trivial) parts) run

/-- What is kept under all facts is so by the building of a formula. -/
theorem Kept.build (kept : Kept (fun _ => True) property) (formula : Formula)
    (run : formula.build facts limit text = .ok result) : property result :=
  kept.formula trivial formula run

/-- A text that is parsed writes a formula. -/
theorem parse_eq_ok {limits : Limits} {source : String}
    (run : Expression.parse facts limits source = .ok result) :
    ∃ formula, Grammar.read source.toList = .ok formula ∧
      formula.build facts limits.clauses source.toList = .ok result := by
  unfold Expression.parse at run
  split at run
  · cases run
  dsimp only at run
  split at run
  · cases run
  split at run
  · cases run
  split at run
  · cases run
  · rename_i formula found
    exact ⟨formula, found, run⟩

theorem Kept.parse (kept : Kept known property) (now : known facts) {limits : Limits}
    {source : String} (run : Expression.parse facts limits source = .ok result) :
    property result := by
  obtain ⟨formula, -, build⟩ := parse_eq_ok run
  exact kept.formula now formula build

end Parsing

/-! ### Expressions without NaN -/

theorem nanFree_ofBool (value : Bool) : (ofBool value).NaNFree := by
  cases value <;> simp [Expression.NaNFree, Clause.NaNFree, ofBool, never, always]

theorem nanFree_single {literal : Literal} (nanFree : literal.hasNaN = false) :
    (single literal).NaNFree :=
  List.forall_mem_singleton.mpr (List.forall_mem_singleton.mpr nanFree)

theorem nanFree_ofLiteral (facts : Facts) {literal : Literal} (nanFree : literal.hasNaN = false) :
    (ofLiteral facts literal).NaNFree := by
  rcases ofLiteral_cases facts literal with ⟨value, same⟩ | ⟨literal', same, inherits⟩
  · rw [same]
    exact nanFree_ofBool value
  · rw [same]
    exact nanFree_single (inherits nanFree)

theorem nanFree_negateLiteral (facts : Facts) {literal : Literal}
    (nanFree : literal.hasNaN = false) : (negateLiteral facts literal).NaNFree := by
  rw [← literal.hasNaN_opposite] at nanFree
  rcases negateLiteral_cases facts literal with same | same
  · rw [same]
    exact nanFree_ofLiteral facts nanFree
  · rw [same]
    exact nanFree_single nanFree

/-- **No operation brings NaN into expressions without it.** -/
theorem kept_nanFree : Kept (fun _ => True) Expression.NaNFree where
  constant := nanFree_ofBool
  literal facts _ _ nanFree := nanFree_ofLiteral facts nanFree
  negated facts _ _ nanFree clause inside literal member :=
    nanFree_negateLiteral facts (nanFree clause inside literal member)
  renamed facts _ naming _ nanFree clause inside literal member :=
    nanFree_ofLiteral facts
      ((literal.hasNaN_rename naming).trans (nanFree clause inside literal member))
  conjWithin parts run clause inside literal member :=
    hasNaN_literalsOf parts literal (subset_conjWithin run clause inside member)
  disjWithin parts run clause inside literal member :=
    hasNaN_literalsOf parts literal (subset_disjWithin run clause inside member)

/-! ### Operations that end -/

/-- The joins of a negation return: that of each negated clause, and that of all of them. -/
structure Expression.NegationEnds (expression : Expression) : Prop where
  clauses : ∀ facts, ∀ clause ∈ expression.clauses,
    DisjReturns (clause.map (negateLiteral facts)) (disj (clause.map (negateLiteral facts)))
  all : ∀ facts, ConjReturns (expression.clauses.map (negateClause facts))
    (conj (expression.clauses.map (negateClause facts)))

/-- The joins of a renaming return: that of each renamed clause, and that of all of them. -/
structure Expression.RenamingEnds (expression : Expression) : Prop where
  clauses : ∀ facts naming, ∀ clause ∈ expression.clauses,
    ConjReturns (clause.map fun literal => ofLiteral facts (literal.rename naming))
      (conj (clause.map fun literal => ofLiteral facts (literal.rename naming)))
  all : ∀ facts naming, DisjReturns (expression.clauses.map (renameClause facts naming))
    (disj (expression.clauses.map (renameClause facts naming)))

theorem negationEnds (nanFree : expression.NaNFree) : expression.NegationEnds where
  clauses facts clause inside := disjReturns_disj
    (List.forall_mem_map.mpr (kept_nanFree.negated facts trivial expression nanFree clause inside))
  all facts := conjReturns_conj (List.forall_mem_map.mpr fun clause inside =>
    kept_nanFree.negateClause (kept_nanFree.negated facts trivial expression nanFree clause inside))

theorem renamingEnds (nanFree : expression.NaNFree) : expression.RenamingEnds where
  clauses facts naming clause inside := conjReturns_conj
    (List.forall_mem_map.mpr (kept_nanFree.renamed facts trivial naming expression nanFree clause inside))
  all facts naming := disjReturns_disj (List.forall_mem_map.mpr fun clause inside =>
    kept_nanFree.renameClause (kept_nanFree.renamed facts trivial naming expression nanFree clause inside))

end WhenClause

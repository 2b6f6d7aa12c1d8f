/-
**Printing and parsing again.**

An expression that operations build under fixed facts is parsed back from what it prints as
(`parse_render`): its literals are free and build themselves, the literals of a clause are consistent
and build the clause, and the clauses are complete and build the expression, in their order.

* `Reads.buildAll_parts`: what the parts of a join build, if it is read without groups;
* `Reads.buildAll_expression`: what is read off a printed expression builds what is read again;
* `parse_open_source`: a source with an open backslash at its end takes the closing slash with it.
-/

import WhenClause.Proofs.Complete
import WhenClause.Proofs.Parsing
import WhenClause.Proofs.Rendering
import WhenClause.Regex.Engine

namespace WhenClause

open Expression Grammar

section Engine

variable [PatternEngine]
variable {facts : Facts} {limit : Nat} {source : List Char} {literal : Literal} {clause : Clause}
  {expression : Expression} {sentence : Sentence} {sentences : List Sentence}
  {formulas : List Formula} {join : Join} {holds : Bool}

namespace Grammar

/-! ### Readings without groups -/

/-- Without a group nothing but a constant or a test stands behind marks of negation. -/
theorem Reads.primary_inv (reads : Reads 0 formulas (.primary sentence)) :
    (∃ holds, sentence = .constant holds ∧ formulas = [.test (.constant holds)]) ∨
      ∃ literal written, sentence = .literal literal ∧ formulas = [.test written] ∧
        ∀ facts source, written.build facts source = .ok (ofLiteral facts literal) := by
  cases reads with
  | constant holds => exact .inl ⟨holds, rfl, rfl⟩
  | test builds => exact .inr ⟨_, _, rfl, rfl, builds⟩

theorem Reads.unary_inv (reads : Reads 0 formulas (.unary sentence)) :
    ∃ count body formula, sentence = negations count body ∧ formulas = [negated count formula] ∧
      Reads 0 [formula] (.primary body) := by
  cases reads with
  | unary count reads => exact ⟨count, _, _, rfl, rfl, reads⟩

theorem Reads.not_joined (reads : Reads 0 formulas (.unary (.joined join sentences))) : False := by
  obtain ⟨count, body, formula, same, -, reads⟩ := reads.unary_inv
  cases count with
  | zero =>
    rcases reads.primary_inv with ⟨holds, rfl, -⟩ | ⟨literal, written, rfl, -⟩
    · cases same
    · cases same
  | succ count => cases same

/-- The reading of one conjunct that is no conjunction. -/
theorem Reads.conjunct_inv (reads : Reads 0 formulas (.joined .all sentence))
    (single : ∀ sentences, sentence ≠ .joined .all sentences) : Reads 0 formulas (.unary sentence) := by
  generalize same : Phrase.joined .all sentence = phrase at reads
  cases reads with
  | conjunct reads =>
    cases same
    exact reads
  | join first rest =>
    cases same
    exact absurd rfl (single _)
  | _ => cases same

/-- The reading of one alternative that is no disjunction. -/
theorem Reads.alternative_inv (reads : Reads 0 formulas (.joined .any sentence))
    (single : ∀ sentences, sentence ≠ .joined .any sentences) :
    ∃ parts, formulas = [.all parts] ∧ Reads 0 parts (.joined .all sentence) := by
  generalize same : Phrase.joined .any sentence = phrase at reads
  cases reads with
  | alternative reads =>
    cases same
    exact ⟨_, rfl, reads⟩
  | join first rest =>
    cases same
    exact absurd rfl (single _)
  | _ => cases same

/-- The reading of a join is that of its parts. -/
theorem Reads.join_inv (reads : Reads 0 formulas (.joined join (.joined join sentences))) :
    Reads 0 formulas (.more join sentences) := by
  generalize same : Phrase.joined join (.joined join sentences) = phrase at reads
  cases reads with
  | conjunct reads =>
    cases same
    exact reads.not_joined.elim
  | alternative reads =>
    cases same
    exact (reads.conjunct_inv nofun).not_joined.elim
  | join first rest =>
    cases same
    exact .part first rest
  | _ => cases same

end Grammar

/-! ### What single literals build -/

theorem Literal.sentence_cases (literal : Literal) : literal.sentence = .literal literal ∨
    ∃ question, literal = .test question false ∧
      literal.sentence = .negation (.literal (.test question true)) := by
  cases literal with
  | ordered key comparison bound => exact .inl rfl
  | test question holds =>
    cases question <;> cases holds
    case has.false key => exact .inr ⟨_, rfl, rfl⟩
    case matching.false key pattern => exact .inr ⟨_, rfl, rfl⟩
    all_goals exact .inl rfl

theorem Literal.sentence_ne_joined (literal : Literal) (join : Join) (sentences : List Sentence) :
    literal.sentence ≠ .joined join sentences := by
  rcases literal.sentence_cases with same | ⟨question, -, same⟩
  · rw [same]
    nofun
  · rw [same]
    nofun

theorem Clause.sentence_ne_any (clause : Clause) (sentences : List Sentence) :
    Clause.sentence clause ≠ .joined .any sentences := by
  cases clause <;> nofun

theorem Literal.Free.reread (free : literal.Free facts) : literal.reread.Free facts := by
  have plain : ∀ value : Value, value.reread.isBoolean = value.isBoolean := by
    rintro (_ | _ | _) <;> rfl
  cases literal with
  | test question holds =>
    cases question with
    | equals key value => exact ⟨free.1, (plain value).trans free.2⟩
    | _ => exact free
  | ordered key comparison bound => exact (plain bound).trans free

namespace Grammar

theorem Reads.build_atom {formula : Formula} (free : literal.Free facts)
    (reads : Reads 0 [formula] (.primary (.literal literal))) :
    formula.build facts limit source = .ok (single literal) := by
  rcases reads.primary_inv with ⟨holds, same, -⟩ | ⟨literal', written, same, same', builds⟩
  · cases same
  · cases same
    cases same'
    rw [Formula.build, builds, ofLiteral_of_free free]

/-- **A literal builds itself**, as long as the facts leave it open. -/
theorem Reads.buildAll_literal (free : literal.Free facts)
    (reads : Reads 0 formulas (.unary literal.sentence)) :
    Formula.buildAll facts limit source formulas = .ok [single literal] := by
  obtain ⟨count, body, formula, same, rfl, reads⟩ := reads.unary_inv
  rw [buildAll_singleton]
  rcases literal.sentence_cases with plain | ⟨question, rfl, negated⟩
  · rw [plain] at same
    cases count with
    | zero =>
      cases same
      rw [show negated 0 formula = formula from rfl, reads.build_atom free]
      rfl
    | succ count => cases same
  · rw [negated] at same
    cases count with
    | zero =>
      cases same
      rcases reads.primary_inv with ⟨_, same, -⟩ | ⟨_, _, same, -⟩
      · cases same
      · cases same
    | succ count =>
      have same := Sentence.negation.inj same
      cases count with
      | zero =>
        cases same
        have free' : (Literal.test question true).Free facts := free
        rw [show Grammar.negated 1 formula = .negation formula from rfl, Formula.build,
          reads.build_atom free']
        show withinClauses (.ok (negateLiteral facts (.test question true))) >>= _ = _
        rw [negateLiteral_of_free free']
        rfl
      | succ count => cases same

/-! ### What joins build -/

/-- The parts of a join build one expression each. -/
theorem Reads.buildAll_parts {α : Type} {part : α → Sentence} {result : α → Expression}
    {parts : List α}
    (each : ∀ member ∈ parts, ∀ formulas, Reads 0 formulas (.joined join (part member)) →
      Formula.buildAll facts limit source formulas = .ok [result member])
    (reads : Reads 0 formulas (.more join (parts.map part))) :
    Formula.buildAll facts limit source formulas = .ok (parts.map result) := by
  induction parts generalizing formulas with
  | nil =>
    cases reads
    rw [Formula.buildAll]
    rfl
  | cons member parts ih =>
    obtain ⟨head, tail⟩ := List.forall_mem_cons.mp each
    cases reads with
    | part first rest =>
      rw [buildAll_append, head _ first, ih tail rest]
      rfl

/-- A constant builds itself. -/
theorem Reads.buildAll_constant (reads : Reads 0 formulas (.joined .any (.constant holds))) :
    Formula.buildAll facts limit source formulas = .ok [ofBool holds] := by
  obtain ⟨parts, rfl, all'⟩ := reads.alternative_inv nofun
  obtain ⟨count, body, formula, same, rfl, primary⟩ := (all'.conjunct_inv nofun).unary_inv
  cases count with
  | zero =>
    cases same
    rcases primary.primary_inv with ⟨holds', same, same'⟩ | ⟨_, _, same, -⟩
    · cases same
      cases same'
      refine buildAll_join .all ?_ (conjWithin_ofBool limit holds)
      rw [buildAll_singleton, show negated 0 (Formula.test _) = .test _ from rfl, Formula.build]
      rfl
    · cases same
  | succ count => cases same

/-- **The literals of a consistent clause build the clause.** -/
theorem Reads.buildAll_clause (consistent : clause.Consistent)
    (free : ∀ literal ∈ clause, literal.Free facts)
    (reads : Reads 0 formulas (.joined .any (Clause.sentence clause))) :
    Formula.buildAll facts limit source formulas = .ok [ofClause clause] := by
  cases clause with
  | nil => exact reads.buildAll_constant
  | cons literal literals =>
    obtain ⟨parts, rfl, all'⟩ := reads.alternative_inv (Clause.sentence_ne_any _)
    refine buildAll_join .all ?_ (conjWithin_map_single consistent limit)
    exact all'.join_inv.buildAll_parts fun literal inside formulas part =>
      (part.conjunct_inv (literal.sentence_ne_joined .all)).buildAll_literal (free literal inside)

/-- **Complete clauses build the expression**, within a limit that has room for them. -/
theorem Reads.build_expression (complete : Complete expression.clauses)
    (consistent : ∀ clause ∈ expression.clauses, clause.Consistent)
    (free : expression.Free facts) (alone : [] ∈ expression.clauses → expression = always)
    (room : expression = always ∨ expression.clauses.length ≤ limit)
    (reads : Reads 0 formulas (.joined .any expression.sentence)) :
    (Formula.any formulas).build facts limit source = .ok expression := by
  obtain ⟨clauses⟩ := expression
  cases clauses with
  | nil => exact build_join .any reads.buildAll_constant (disjWithin_ofBool limit false)
  | cons clause clauses =>
    refine build_join .any (reads.join_inv.buildAll_parts fun clause inside formulas part =>
      part.buildAll_clause (consistent clause inside) (free clause inside)) ?_
    by_cases empty : [] ∈ clause :: clauses
    · cases alone empty
      exact disjWithin_ofBool limit true
    · have room : (clause :: clauses).length ≤ limit := room.resolve_left fun same => by
        rw [always, Expression.mk.injEq] at same
        exact empty (same ▸ List.mem_cons_self)
      exact disjWithin_map_ofClause complete empty room

end Grammar

/-! ### A test by itself -/

/-- A test by itself builds its literal. -/
theorem buildAll_test {written : WrittenTest}
    (test : written.build facts source = .ok (single literal)) :
    Formula.buildAll facts limit source [.all [.test written]] = .ok [ofClause [literal]] := by
  refine buildAll_join .all ?_ (conjWithin_map_single (List.pairwise_singleton _ _) limit)
  rw [buildAll_singleton, Formula.build, test]
  rfl

theorem build_test {written : WrittenTest} (room : 1 ≤ limit)
    (test : written.build facts source = .ok (single literal)) :
    (Formula.any [.all [.test written]]).build facts limit source = .ok (single literal) := by
  have gathers : gatherWithin limit [] ([[literal]].map ofClause) = .ok (some ([] ++ [[literal]])) :=
    gatherWithin_map_ofClause (by simp) (by simpa using room)
  have joins : disjWithin limit ([[literal]].map ofClause) = .ok (ofClause [literal]) := by
    rw [disjWithin, gathers]
    exact ofClausesWithin_singleton limit [literal]
  exact build_join .any (buildAll_test test) joins

theorem build_test_error {written : WrittenTest} {error : ParseError}
    (test : written.build facts source = .error error) :
    (Formula.any [.all [.test written]]).build facts limit source = .error error := by
  simp only [Formula.build, Formula.buildAll, test]
  rfl

/-! ### The round trip -/

theorem Expression.Writable.same (writable : expression.Writable) :
    ∀ clause ∈ expression.clauses, ∀ literal ∈ clause, (literal.reread == literal) = true :=
  fun clause inside literal member => Literal.reread_beq (writable clause inside literal member)

/-- What equals anything names no NaN. -/
theorem Expression.nanFree_of_same (same : ∀ clause ∈ expression.clauses, ∀ literal ∈ clause,
      (literal.reread == literal) = true) : expression.NaNFree :=
  fun clause inside literal member =>
    Literal.hasNaN_of_beq_left (BEq.symm (same clause inside literal member))

theorem Expression.isText_render (writable : expression.Writable) :
    IsText 0 expression.reread.sentence expression.render.toList := by
  have whole := @IsText.intro _ 0 _ [] _ [] gap_nil (Expression.writes_render writable) gap_nil
  rwa [List.nil_append, List.append_nil] at whole

section Reread

variable (same : ∀ clause ∈ expression.clauses, ∀ literal ∈ clause,
  (literal.reread == literal) = true)

include same

/-- What is read off the text of a built expression builds the expression as it is read again. -/
theorem build_reread (built : Built (· = facts) expression)
    (room : expression = always ∨ expression.clauses.length ≤ limit)
    (reads : Reads 0 formulas (.joined .any expression.reread.sentence)) :
    (Formula.any formulas).build facts limit source = .ok expression.reread := by
  have nanFree := nanFree_of_same same
  refine reads.build_expression (built.formed.complete_map nanFree same) ?_ ?_ ?_ ?_
  · intro clause' among
    obtain ⟨clause, inside, rfl⟩ := List.mem_map.mp among
    exact (built.formed.consistent clause inside).map (same clause inside)
  · intro clause' among literal' member'
    obtain ⟨clause, inside, rfl⟩ := List.mem_map.mp among
    obtain ⟨literal, member, rfl⟩ := List.mem_map.mp member'
    exact (built.free clause inside literal member).reread
  · intro among
    obtain ⟨clause, inside, empty⟩ := List.mem_map.mp among
    rw [List.map_eq_nil_iff.mp empty] at inside
    rw [built.formed.eq_always inside]
    rfl
  · refine room.imp (fun always' => ?_) fun room => ?_
    · rw [always']
      rfl
    · rwa [reread, List.length_map]

theorem reread_beq (formed : expression.Formed) (formed' : expression.reread.Formed) :
    (expression.reread == expression) = true := by
  refine (beq_iff_same formed' formed).mpr ⟨fun clause' among => ?_, fun clause inside => ?_⟩
  · obtain ⟨clause, inside, rfl⟩ := List.mem_map.mp among
    exact ⟨clause, inside, Clause.same_map (same clause inside)⟩
  · exact ⟨clause.map Literal.reread, List.mem_map_of_mem inside,
      Clause.same_map (same clause inside)⟩

end Reread

/-- **A built expression is parsed back from what it prints as.** Within a limit on length that the
text keeps, and a limit on clauses that the expression itself keeps, parsing the text gives an equal
expression that prints as the same text. -/
theorem parse_render {limits : Limits} (built : Built (· = facts) expression)
    (writable : expression.Writable)
    (bytes : expression.render.utf8ByteSize ≤ limits.expressionBytes)
    (room : expression.clauses.length ≤ limits.clauses) :
    ∃ result, parse facts limits expression.render = .ok result ∧
      (result == expression) = true ∧ result.render = expression.render := by
  have isText := Expression.isText_render writable
  obtain ⟨formulas, read, reads⟩ := isText.reads
  have nesting : nestingDepth expression.render.toList ≤ limits.nestingDepth :=
    isText.nestingDepth_le.trans (Nat.zero_le _)
  have parsed : parse facts limits expression.render = .ok expression.reread := by
    rw [parse_eq_build bytes nesting expression.shown_render read]
    exact build_reread writable.same built (.inr room) reads
  have built' : Built (· = facts) expression.reread := .parse rfl parsed
  exact ⟨expression.reread, parsed, reread_beq writable.same built.formed built'.formed,
    expression.render_reread⟩

end Engine

/-- A key named as a word of the language, a key that needs quotes, a slash within a class and a
number: `!in && !'a b' =~ /(?x)#[/]/s && n >= 1` is parsed back. -/
theorem parse_render_quoted_key :
    ∃ pattern expression result, PatternLiteral.ofSource "(?x)#[/]" ['g', 's'] = .ok pattern ∧
      expression = ofClause [.test (.has "in") false, .test (.matching "a b" pattern) false,
        .ordered "n" .atLeast (.number Double.one)] ∧
      parse none {} expression.render = .ok result ∧ (result == expression) = true ∧
        result.render = expression.render := by
  have compiles : (PatternLiteral.ofSource "(?x)#[/]" ['g', 's']).toOption.isSome = true := by
    decide +kernel
  cases made : PatternLiteral.ofSource "(?x)#[/]" ['g', 's'] with
  | error cause =>
    rw [made] at compiles
    cases compiles
  | ok pattern =>
  obtain ⟨-, -, source, flags⟩ := ofSource_eq_ok.mp made
  have writable : pattern.Writable := by
    constructor
    · exact ⟨['g', 's'], by rw [source]; exact made⟩
    all_goals
      rw [source]
      decide
  obtain ⟨clause, same⟩ : ∃ clause : Clause, clause = [.test (.has "in") false,
      .test (.matching "a b" pattern) false, .ordered "n" .atLeast (.number Double.one)] :=
    ⟨_, rfl⟩
  have consistent : clause.Consistent := by
    rw [same]
    refine List.pairwise_cons.mpr ⟨?_, List.pairwise_cons.mpr ⟨?_, List.pairwise_singleton _ _⟩⟩
    · exact List.forall_mem_cons.mpr ⟨⟨rfl, rfl⟩, List.forall_mem_singleton.mpr ⟨rfl, rfl⟩⟩
    · exact List.forall_mem_singleton.mpr ⟨rfl, rfl⟩
  have literals : ∀ literal ∈ clause, literal.Writable ∧ ofLiteral none literal = single literal := by
    rw [same]
    exact List.forall_mem_cons.mpr ⟨⟨trivial, rfl⟩, List.forall_mem_cons.mpr ⟨⟨writable, rfl⟩,
      List.forall_mem_singleton.mpr ⟨(by decide : Double.one.isFinite = true), rfl⟩⟩⟩
  have built : Built (· = none) (ofClause clause) := by
    refine .conjWithin (fun operand among => ?_) (conjWithin_map_single consistent 1)
    obtain ⟨literal, inside, rfl⟩ := List.mem_map.mp among
    rw [← (literals literal inside).2]
    exact @Built.literal _ (· = none) none rfl literal
  have text : (ofClause clause).render = "!in && !'a b' =~ /(?x)#[/]/s && n >= 1" := by
    have one : (Value.number Double.one).render = "1" := by decide +kernel
    rw [same]
    simp only [Expression.render, isNever, Clause.render, ofClause, List.map, List.isEmpty_cons,
      Bool.false_eq_true, if_false, Literal.render, PatternLiteral.render, source, flags, one]
    decide
  have free : (ofClause clause).Writable :=
    List.forall_mem_singleton.mpr fun literal inside => (literals literal inside).1
  obtain ⟨result, parsed, equal, text'⟩ := @parse_render _ none _ {} built free
    (by rw [text]; decide) (Nat.le_of_ble_eq_true rfl)
  exact ⟨pattern, ofClause clause, result, rfl, by rw [same], parsed, equal, text'⟩

/-- The source `(?x)#\` is one that the grammar takes as a whole, and has no open class. But behind
the backslash at its end the closing slash belongs to the source, so the text of a test for it is not
parsed. -/
theorem parse_open_source :
    ∃ pattern, PatternLiteral.ofSource "(?x)#\\" [] = .ok pattern ∧
      takeSource "(?x)#\\".toList = some ("(?x)#\\".toList, "(?x)#\\".length) ∧
      closesClasses false "(?x)#\\".toList = true ∧ Built (· = none) (matching "k" pattern) ∧
      (matching "k" pattern).render = "k =~ /(?x)#\\/" ∧
      ∀ result, parse none {} (matching "k" pattern).render ≠ .ok result := by
  have noPattern : (parse none {} "k =~ /(?x)#\\/").toOption.isSome = false := by decide +kernel
  have compiles : (PatternLiteral.ofSource "(?x)#\\" []).toOption.isSome = true := by
    decide +kernel
  cases made : PatternLiteral.ofSource "(?x)#\\" [] with
  | error cause =>
    rw [made] at compiles
    cases compiles
  | ok pattern =>
  obtain ⟨-, -, source, flags⟩ := ofSource_eq_ok.mp made
  have text : (matching "k" pattern).render = "k =~ /(?x)#\\/" := by
    simp only [Expression.render, isNever, Clause.render, matching, single, ofClause, List.map,
      List.isEmpty_cons, Bool.false_eq_true, if_false, Literal.render, PatternLiteral.render, source,
      flags]
    decide
  refine ⟨pattern, rfl, by decide, by decide, @Built.literal _ (· = none) none rfl
    (.test (.matching "k" pattern) true), text, fun result parsed => ?_⟩
  rw [text] at parsed
  rw [parsed] at noPattern
  cases noPattern

end WhenClause

/-
**What parsing leaves to be printed.**

An expression is `Legible` if its numbers are finite and its pattern sources are ones that the
grammar ended at the slash behind them. Tests that are read are, constructors and negation leave
values and sources as they are, and joins have no other literals than their operands. So a parsed
expression is legible (`legible_of_parse`).

It also keeps the limit on clauses that it was parsed within (`room_of_parse`).
-/

import WhenClause.Proofs.ReaderValue
import WhenClause.Proofs.Rendering

namespace WhenClause

open Expression Grammar

theorem writable_of_build {text : List Char} {value : WrittenValue} {result : Value}
    (run : value.build text = .ok result) : result.Writable := by
  cases value with
  | boolean value => cases run; trivial
  | string value => cases run; trivial
  | number digits extent =>
    obtain ⟨parsed, rfl, finite⟩ := isFinite_build run
    exact finite

variable [PatternEngine]
variable {facts : Facts} {limits : Limits} {expression result : Expression} {literal : Literal}
  {text : List Char} {written : WrittenTest} {source : String} {operands : List Expression}

/-! ### Legible expressions -/

/-- The literal is one that `ofSource` makes, and in front of some texts its source ends at the slash
behind it. -/
structure PatternLiteral.Legible (pattern : PatternLiteral) : Prop where
  made : ∃ flags, ofSource pattern.source flags = .ok pattern
  ends : ∃ closing, SourceEnds closing false pattern.source.toList

def Test.Legible : Test → Prop
  | .equals _ wanted => wanted.Writable
  | .matching _ pattern => pattern.Legible
  | _ => True

def Literal.Legible : Literal → Prop
  | .test question _ => question.Legible
  | .ordered _ _ bound => bound.Writable

/-- Every number of an expression is finite, and every pattern source ends at a slash. -/
def Expression.Legible (expression : Expression) : Prop :=
  ∀ clause ∈ expression.clauses, ∀ literal ∈ clause, literal.Legible

/-- But for pattern tests a legible literal can be written anywhere. -/
theorem Literal.Legible.cases (legible : literal.Legible) :
    literal.Writable ∨ ∃ key pattern holds, literal = .test (.matching key pattern) holds ∧
      pattern.Legible := by
  cases literal with
  | test question holds =>
    cases question with
    | matching key pattern => exact .inr ⟨key, pattern, holds, rfl, legible⟩
    | has key => exact .inl trivial
    | equals key value => exact .inl legible
    | member key container => exact .inl trivial
  | ordered key comparison bound => exact .inl legible

/-- A legible literal is equal to what is read again. -/
theorem Literal.Legible.reread_beq (legible : literal.Legible) :
    (literal.reread == literal) = true := by
  rcases legible.cases with writable | ⟨key, pattern, holds, rfl, -⟩
  · exact Literal.reread_beq writable
  · exact (beq_self_iff _).mpr rfl

/-! ### Constructors and joins -/

theorem legible_ofBool (value : Bool) : (ofBool value).Legible := by
  cases value with
  | false => exact List.forall_mem_nil _
  | true => exact List.forall_mem_singleton.mpr (List.forall_mem_nil _)

theorem legible_single (legible : literal.Legible) : (single literal).Legible :=
  List.forall_mem_singleton.mpr (List.forall_mem_singleton.mpr legible)

theorem legible_ofLiteral (facts : Facts) (legible : literal.Legible) :
    (ofLiteral facts literal).Legible := by
  cases literal with
  | test question holds =>
    rcases ofTest_cases facts question holds with ⟨value, same⟩ | ⟨question', polarity, same, asks⟩
    · rw [ofLiteral, same]
      exact legible_ofBool value
    · rw [ofLiteral, same]
      rcases asks with rfl | ⟨key, rfl⟩
      · exact legible_single legible
      · exact @legible_single _ (.test (.has key) polarity) trivial
  | ordered key comparison bound =>
    refine @legible_single _ (.ordered key comparison (plainBound bound)) ?_
    cases bound with
    | boolean value => trivial
    | number value => exact legible
    | string value => trivial

theorem legible_negateLiteral (facts : Facts) (legible : literal.Legible) :
    (negateLiteral facts literal).Legible := by
  have opposite : literal.opposite.Legible := by
    cases literal with
    | test question holds => exact legible
    | ordered key comparison bound => exact legible
  rcases negateLiteral_cases facts literal with same | same
  · rw [same]
    exact legible_ofLiteral facts opposite
  · rw [same]
    exact legible_single opposite

theorem legible_literalsOf (legible : ∀ operand ∈ operands, operand.Legible) :
    ∀ literal ∈ literalsOf operands, literal.Legible := by
  intro literal member
  obtain ⟨operand, among, clause, inside, member⟩ := mem_literalsOf.mp member
  exact legible operand among clause inside literal member

/-! ### Parsing -/

/-- A test that is read is legible. -/
theorem legible_of_build (sourced : written.Sourced)
    (run : written.build facts text = .ok result) : result.Legible := by
  cases written with
  | constant value => cases run; exact legible_ofBool value
  | has key => cases run; exact @legible_ofLiteral _ (.test (.has _) true) facts trivial
  | member key container => cases run; exact @legible_single _ (.test (.member _ _) true) trivial
  | notMember key container => cases run; exact @legible_single _ (.test (.member _ _) false) trivial
  | matching key source flags extent =>
    rw [WrittenTest.build] at run
    split at run
    · rename_i pattern made
      cases run
      obtain ⟨-, -, same, -⟩ := ofSource_eq_ok.mp made
      have legible : pattern.Legible := by
        constructor
        · rw [same]
          exact ⟨flags, made⟩
        · rw [same, String.toList_ofList]
          exact sourced
      exact @legible_single _ (.test (.matching _ pattern) true) legible
    · cases run
  | compare key operator value =>
    cases read : value.build text with
    | error cause =>
      simp only [WrittenTest.build, read] at run
      cases run
    | ok value =>
      have writable := writable_of_build read
      simp only [WrittenTest.build, read] at run
      cases run
      cases operator with
      | equal => exact @legible_ofLiteral _ (.test (.equals _ value) true) facts writable
      | differ => exact @legible_ofLiteral _ (.test (.equals _ value) false) facts writable
      | ordered comparison => exact @legible_ofLiteral _ (.ordered _ comparison value) facts writable

theorem keptFromTests_legible (facts : Facts) (text : List Char) :
    KeptFromTests facts text WrittenTest.Sourced Expression.Legible where
  joins :=
    { constant := legible_ofBool
      literal := nofun
      negated := nofun
      renamed := nofun
      conjWithin := fun parts run clause inside literal member =>
        legible_literalsOf parts literal (subset_conjWithin run clause inside member)
      disjWithin := fun parts run clause inside literal member =>
        legible_literalsOf parts literal (subset_disjWithin run clause inside member) }
  negated _ legible clause inside literal member :=
    legible_negateLiteral facts (legible clause inside literal member)
  tests _ _ sourced run := legible_of_build sourced run

/-- **A parsed expression is legible.** -/
theorem legible_of_parse (run : parse facts limits source = .ok expression) :
    expression.Legible := by
  obtain ⟨formula, read, build⟩ := parse_eq_ok run
  exact (keptFromTests_legible facts source.toList).formula formula (each_of_read gives_test read)
    build

/-- **A parsed expression keeps the limit on clauses**, unless it always holds. -/
theorem room_of_parse (run : parse facts limits source = .ok expression) :
    expression = always ∨ expression.clauses.length ≤ limits.clauses := by
  obtain ⟨formula, read, build⟩ := parse_eq_ok run
  obtain ⟨parts, rfl⟩ := exists_any_of_read read
  rw [Formula.build] at build
  obtain ⟨results, -, joins⟩ := bind_eq_ok.mp build
  exact length_disjWithin_le (withinClauses_eq_ok joins)

end WhenClause

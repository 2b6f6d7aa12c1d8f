/-
**Parsing what a parsed expression prints as.**

A bracket anywhere behind a pattern source with an open class would close the class, and move the end
of the source. Joins reorder, repeat and drop what stood behind a pattern literal in the text that was
parsed. So a parsed expression is parsed back from what it prints as if behind each source with an
open class nothing is printed that closes one (`Expression.KeepsOpen`).

* `Expression.Legible.fits`: then all its literals can be read where they are printed;
* `parse_render_of_fits`: and then the expression is parsed back;
* `parse_render_of_parse`: the round trip of parsed expressions;
* `parse_closing_key`: a key that is moved behind an open class, and closes it.
-/

import WhenClause.Proofs.Printed
import WhenClause.Regex.Engine

namespace WhenClause

open Expression Grammar

section Engine

variable [PatternEngine]
variable {facts : Facts} {limits : Limits} {literal : Literal} {clause : Clause}
  {expression : Expression} {source : String} {rest : List Char}

/-! ### Open classes -/

/-- Whether every class of the source of a pattern test is closed within it. -/
def Literal.closesClasses : Literal → Bool
  | .test (.matching _ pattern) _ => Grammar.closesClasses false pattern.source.toList
  | _ => true

/-- Behind a pattern source with an open class nothing is printed that closes a class. The literals
of all clauses stand in the order in which they are printed. -/
def Expression.KeepsOpen (expression : Expression) : Prop :=
  expression.clauses.flatten.Pairwise fun literal behind =>
    literal.closesClasses = true ∨ closesClass behind.render.toList = false

instance (expression : Expression) : Decidable expression.KeepsOpen :=
  inferInstanceAs (Decidable (List.Pairwise _ _))

theorem Literal.Legible.fitsBefore (legible : literal.Legible)
    (closed : literal.closesClasses = true ∨ closesClass rest = false) : literal.FitsBefore rest := by
  refine ⟨legible, ?_⟩
  cases literal with
  | test question holds =>
    cases question with
    | matching key pattern =>
      obtain ⟨closing, ends⟩ := PatternLiteral.Legible.ends legible
      exact ends.congr closed
    | _ => trivial
  | ordered => trivial

/-- The literals of a clause can be read where they are printed, if none with an open class stands
before one that closes it. -/
theorem Clause.fitsBefore (legible : ∀ literal ∈ clause, literal.Legible)
    (keepsOpen : clause.Pairwise fun literal behind =>
      literal.closesClasses = true ∨ closesClass behind.render.toList = false)
    (closed : ∀ literal ∈ clause, literal.closesClasses = true ∨ closesClass rest = false)
    (spaced : Spaced rest) : Clause.FitsBefore clause rest := by
  induction clause with
  | nil => trivial
  | cons literal literals ih =>
    obtain ⟨first, others⟩ := List.forall_mem_cons.mp legible
    obtain ⟨head, tail⟩ := List.pairwise_cons.mp keepsOpen
    obtain ⟨closed, closed'⟩ := List.forall_mem_cons.mp closed
    refine ⟨first.fitsBefore ?_, ih others tail closed'⟩
    refine or_iff_not_imp_left.mpr fun open' => ?_
    exact closesClass_behindParts (fun behind among => (head behind among).resolve_left open') spaced
      (closed.resolve_left open')

theorem Clause.closesClass_render
    (open' : ∀ literal ∈ clause, closesClass literal.render.toList = false) :
    closesClass (Clause.render clause).toList = false := by
  cases clause with
  | nil => exact (by decide : closesClass "true".toList = false)
  | cons literal literals =>
    obtain ⟨head, tail⟩ := List.forall_mem_cons.mp open'
    have spaced : Spaced [] := nofun
    have shape := @toList_intercalate_parts _ .all Literal.render " && " rfl literal literals
    rw [show (Clause.render (literal :: literals)).toList = _ from shape,
      ← List.append_nil (behindParts _ _ _)]
    exact closesClass_append_of_spaced head (spaced_behindParts spaced)
      (closesClass_behindParts tail spaced rfl)

/-- **Where open classes stay open every literal can be read where it is printed.** -/
theorem Expression.Legible.fits (legible : expression.Legible) (keepsOpen : expression.KeepsOpen) :
    expression.Fits := by
  obtain ⟨clauses⟩ := expression
  unfold Expression.Fits
  unfold Expression.Legible at legible
  unfold Expression.KeepsOpen at keepsOpen
  dsimp only at legible keepsOpen ⊢
  induction clauses with
  | nil => trivial
  | cons clause clauses ih =>
    obtain ⟨first, others⟩ := List.forall_mem_cons.mp legible
    rw [List.flatten_cons, List.pairwise_append] at keepsOpen
    obtain ⟨within, behind, across⟩ := keepsOpen
    have spaced : Spaced [] := nofun
    refine ⟨Clause.fitsBefore first within (fun literal member => ?_) (spaced_behindParts spaced),
      ih others behind⟩
    refine or_iff_not_imp_left.mpr fun open' => closesClass_behindParts (fun other among => ?_) spaced
      rfl
    exact Clause.closesClass_render fun literal' member' =>
      (across literal member literal' (List.mem_flatten_of_mem among member')).resolve_left open'

/-! ### The round trip of parsed expressions -/

/-- A built expression is parsed back from what it prints as, if all its literals can be read where
they are printed. -/
theorem parse_render_of_fits (built : Built (· = facts) expression) (legible : expression.Legible)
    (fits : expression.Fits) (bytes : expression.render.utf8ByteSize ≤ limits.expressionBytes)
    (room : expression = always ∨ expression.clauses.length ≤ limits.clauses) :
    ∃ result, parse facts limits expression.render = .ok result ∧
      (result == expression) = true ∧ result.render = expression.render := by
  have same : ∀ clause ∈ expression.clauses, ∀ literal ∈ clause,
      (literal.reread == literal) = true :=
    fun clause inside literal member => (legible clause inside literal member).reread_beq
  obtain ⟨formulas, read, reads⟩ := read_of_accepted gap_nil expression.begins_render gap_nil
    fun size enough => accepted_expression fits (by simp at enough; omega)
  rw [List.append_nil, List.nil_append] at read
  -- the outline of a printed text has no parentheses, so any limit on nesting is kept
  have nesting : nestingDepth expression.render.toList ≤ limits.nestingDepth :=
    (shallow_expression fits).nestingDepth_le.trans (Nat.zero_le _)
  have parsed : parse facts limits expression.render = .ok expression.reread := by
    rw [parse_eq_build bytes nesting expression.shown_render read]
    exact build_reread same built room reads
  have built' : Built (· = facts) expression.reread := .parse rfl parsed
  exact ⟨expression.reread, parsed, reread_beq same built.formed built'.formed,
    expression.render_reread⟩

/-- **A parsed expression is parsed back from what it prints as.** Within the limits that it was
parsed in, if its text keeps the limit on length and no open class of a pattern source is closed by
what is printed behind it, parsing the text gives an equal expression that prints as the same text. -/
theorem parse_render_of_parse (run : parse facts limits source = .ok expression)
    (bytes : expression.render.utf8ByteSize ≤ limits.expressionBytes)
    (keepsOpen : expression.KeepsOpen) :
    ∃ result, parse facts limits expression.render = .ok result ∧
      (result == expression) = true ∧ result.render = expression.render := by
  have legible := legible_of_parse run
  exact parse_render_of_fits (.parse rfl run) legible (legible.fits keepsOpen) bytes
    (room_of_parse run)

end Engine

theorem exists_open_pattern : ∃ pattern, PatternLiteral.ofSource "(?x)#[" [] = .ok pattern ∧
    pattern.source = "(?x)#[" ∧ pattern.flags = "" := by
  have compiles : (PatternLiteral.ofSource "(?x)#[" []).toOption.isSome = true := by
    decide +kernel
  cases made : PatternLiteral.ofSource "(?x)#[" [] with
  | error cause =>
    rw [made] at compiles
    cases compiles
  | ok pattern =>
    obtain ⟨-, -, source, flags⟩ := ofSource_eq_ok.mp made
    exact ⟨pattern, rfl, source, flags⟩

/-- In `k] && b =~ /(?x)#[/` the bracket that would close the class stands before it. -/
theorem parse_render_open_class :
    ∃ expression result, parse none {} "k] && b =~ /(?x)#[/" = .ok expression ∧
      expression.render = "k] && b =~ /(?x)#[/" ∧
      parse none {} expression.render = .ok result ∧ (result == expression) = true ∧
        result.render = expression.render := by
  obtain ⟨pattern, made, source, flags⟩ := exists_open_pattern
  have read : Grammar.read "k] && b =~ /(?x)#[/".toList = .ok (.any [.all [
      .test (.has "k]".toList), .test (.matching ['b'] "(?x)#[".toList [] ⟨11, 19⟩)]]) := by rfl
  obtain ⟨clause, same⟩ : ∃ clause : Clause, clause = [.test (.has "k]") true,
      .test (.matching "b" pattern) true] := ⟨_, rfl⟩
  have consistent : clause.Consistent := by
    rw [same]
    exact List.pairwise_pair.mpr ⟨rfl, rfl⟩
  have tests : Formula.buildAll none 256 "k] && b =~ /(?x)#[/".toList [.test (.has "k]".toList),
      .test (.matching ['b'] "(?x)#[".toList [] ⟨11, 19⟩)] = .ok (clause.map single) := by
    simp only [Formula.buildAll, Formula.build, WrittenTest.build, String.ofList_toList, made, same]
    rfl
  have complete : Complete [clause] := by
    refine complete_of_positive (List.pairwise_singleton _ _) (List.forall_mem_singleton.mpr ?_)
    rw [same]
    exact List.forall_mem_cons.mpr ⟨⟨_, rfl⟩, List.forall_mem_singleton.mpr ⟨_, rfl⟩⟩
  have run : parse none {} "k] && b =~ /(?x)#[/" = .ok (ofClause clause) := by
    rw [parse_eq_build (by decide) (by decide) ⟨'k', by decide, by decide⟩ read]
    refine build_join .any (buildAll_join .all tests (conjWithin_map_single consistent 256)) ?_
    exact disjWithin_map_ofClause complete (by simp [same]) (Nat.le_of_ble_eq_true rfl)
  have text : (ofClause clause).render = "k] && b =~ /(?x)#[/" := by
    rw [same]
    simp only [Expression.render, isNever, Clause.render, ofClause, List.map, List.isEmpty_cons,
      Bool.false_eq_true, if_false, Literal.render, PatternLiteral.render, source, flags]
    decide
  have keepsOpen : (ofClause clause).KeepsOpen := by
    rw [same]
    exact List.pairwise_pair.mpr (.inl rfl)
  obtain ⟨result, parsed, equal, same'⟩ := parse_render_of_parse run (by rw [text]; decide) keepsOpen
  exact ⟨ofClause clause, result, run, text, parsed, equal, same'⟩

/-- In the text `k] && (b =~ /(?x)#[/ || c)` the key `k]` stands before the pattern literal with the
open class. The parsed expression prints it behind the literal, too, where it closes the class: what
it prints as is not parsed. -/
theorem parse_closing_key :
    ∃ expression, parse none {} "k] && (b =~ /(?x)#[/ || c)" = .ok expression ∧
      expression.render = "k] && b =~ /(?x)#[/ || k] && c" ∧
      expression.render.utf8ByteSize ≤ ({} : Limits).expressionBytes ∧
      ∀ result, parse none {} expression.render ≠ .ok result := by
  obtain ⟨pattern, made, source, flags⟩ := exists_open_pattern
  obtain ⟨key, isKey⟩ : ∃ literal : Literal, literal = .test (.has "k]") true := ⟨_, rfl⟩
  obtain ⟨unclosed, isUnclosed⟩ : ∃ literal : Literal,
      literal = .test (.matching "b" pattern) true := ⟨_, rfl⟩
  obtain ⟨other, isOther⟩ : ∃ literal : Literal, literal = .test (.has "c") true := ⟨_, rfl⟩
  -- The choice in parentheses, and its product with the key.
  have choice : Complete [[unclosed], [other]] := by
    refine complete_of_positive (List.pairwise_pair.mpr ?_) ?_ <;> rw [isUnclosed, isOther]
    · exact ⟨rfl, rfl⟩
    · simp
  have product : Complete [[key, unclosed], [key, other]] := by
    refine complete_of_positive (List.pairwise_pair.mpr ?_) ?_ <;> rw [isKey, isUnclosed, isOther]
    · exact ⟨rfl, rfl⟩
    · simp
  have expands : expandWithin 256 [[]] [single key, ⟨[[unclosed], [other]]⟩] =
      .ok [[key, unclosed], [key, other]] := by
    rw [isKey, isUnclosed, isOther]
    rfl
  have read : Grammar.read "k] && (b =~ /(?x)#[/ || c)".toList = .ok (.any [.all [
      .test (.has "k]".toList), .any [.all [.test (.matching ['b'] "(?x)#[".toList [] ⟨12, 20⟩)],
        .all [.test (.has ['c'])]]]]) := by rfl
  have run : parse none {} "k] && (b =~ /(?x)#[/ || c)" =
      .ok ⟨[[key, unclosed], [key, other]]⟩ := by
    rw [parse_eq_build (by decide) (by decide) ⟨'k', by decide, by decide⟩ read]
    have parts : Formula.buildAll none 256 "k] && (b =~ /(?x)#[/ || c)".toList
        [.all [.test (.matching ['b'] "(?x)#[".toList [] ⟨12, 20⟩)], .all [.test (.has ['c'])]] =
          .ok ([[unclosed], [other]].map ofClause) := by
      rw [isUnclosed, isOther]
      exact (buildAll_append [_] [_]).trans (bind_eq_ok.mpr ⟨_, buildAll_test (by
        rw [WrittenTest.build, String.ofList_toList, made]
        rfl), bind_eq_ok.mpr ⟨_, buildAll_test rfl, rfl⟩⟩)
    have group := build_join .any parts
      (disjWithin_map_ofClause choice (by simp) (Nat.le_of_ble_eq_true rfl))
    have tests : Formula.buildAll none 256 "k] && (b =~ /(?x)#[/ || c)".toList
        [.test (.has "k]".toList), .any [.all [.test (.matching ['b'] "(?x)#[".toList [] ⟨12, 20⟩)],
          .all [.test (.has ['c'])]]] = .ok [single key, ⟨[[unclosed], [other]]⟩] := by
      refine (buildAll_append [_] [_]).trans ?_
      rw [buildAll_singleton, buildAll_singleton, isKey]
      exact bind_eq_ok.mpr ⟨_, rfl, bind_eq_ok.mpr ⟨_, bind_eq_ok.mpr ⟨_, group, rfl⟩, rfl⟩⟩
    have conjunction : conjWithin 256 [single key, ⟨[[unclosed], [other]]⟩] =
        .ok ⟨[[key, unclosed], [key, other]]⟩ := by
      rw [conjWithin, expands]
      exact product.ofClausesWithin 256
    have disjunction : disjWithin 256 [⟨[[key, unclosed], [key, other]]⟩] =
        .ok ⟨[[key, unclosed], [key, other]]⟩ := product.ofClausesWithin 256
    exact build_join .any (buildAll_join .all tests conjunction) disjunction
  have text : (Expression.mk [[key, unclosed], [key, other]]).render =
      "k] && b =~ /(?x)#[/ || k] && c" := by
    rw [isKey, isUnclosed, isOther]
    simp only [Expression.render, isNever, Clause.render, List.map, List.isEmpty_cons,
      Bool.false_eq_true, if_false, Literal.render, PatternLiteral.render, source, flags]
    decide
  have fails : (parse none {} "k] && b =~ /(?x)#[/ || k] && c").toOption.isSome = false := by
    decide +kernel
  refine ⟨_, run, text, by rw [text]; decide, fun result parsed => ?_⟩
  rw [text] at parsed
  rw [parsed] at fails
  cases fails

end WhenClause

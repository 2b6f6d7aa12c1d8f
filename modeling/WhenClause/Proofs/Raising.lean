/-
**Raising limits.**

The limits on length and nesting are checked before a text is read, and the limit on clauses while
its formula is built. None of them has a part in what comes out: under greater limits parsing has
the same outcome, result or error, unless a limit was exceeded. So two limits that let a text
through agree about it.

* `parse_persists`: what becomes of a text within limits becomes of it within all greater ones;
* `parse_unique`: a text writes one expression, whatever the limits;
* `length_alternatives_of_parse`: an expression that is parsed keeps the limit on clauses;
* `parse_raised`: what is parsed within limits is parsed within all greater ones.
-/

import WhenClause.Proofs.Reparse
import WhenClause.Regex.Engine

namespace WhenClause

open Expression Grammar

/-! ### Greater limits -/

/-- Each of the limits is at most the other. -/
structure Limits.Within (limits limits' : Limits) : Prop where
  expressionBytes : limits.expressionBytes ≤ limits'.expressionBytes
  nestingDepth : limits.nestingDepth ≤ limits'.nestingDepth
  clauses : limits.clauses ≤ limits'.clauses

namespace Limits

/-- Of each of two limits the greater one. -/
def max (limits limits' : Limits) : Limits where
  expressionBytes := Nat.max limits.expressionBytes limits'.expressionBytes
  nestingDepth := Nat.max limits.nestingDepth limits'.nestingDepth
  clauses := Nat.max limits.clauses limits'.clauses

theorem within_max_left (limits limits' : Limits) : limits.Within (limits.max limits') :=
  ⟨Nat.le_max_left _ _, Nat.le_max_left _ _, Nat.le_max_left _ _⟩

theorem within_max_right (limits limits' : Limits) : limits'.Within (limits.max limits') :=
  ⟨Nat.le_max_right _ _, Nat.le_max_right _ _, Nat.le_max_right _ _⟩

end Limits

section Engine

variable [PatternEngine]
variable {facts : Facts} {limits limits' : Limits} {source : String}
  {expression expression' : Expression}

/-! ### Outcomes within greater limits -/

/-- **What becomes of a text within limits becomes of it within all greater ones**, unless one of
the limits is exceeded. -/
theorem parse_persists (within : limits.Within limits') (facts : Facts) (source : String) :
    parse facts limits' source = parse facts limits source ∨
      ∃ name limit actual,
        parse facts limits source = .error (.limitExceeded name limit actual) := by
  unfold parse
  dsimp only
  by_cases long : limits.expressionBytes < source.utf8ByteSize
  · rw [if_pos long]
    exact .inr ⟨_, _, _, rfl⟩
  by_cases deep : limits.nestingDepth < nestingDepth source.toList
  · rw [if_neg long, if_pos deep]
    exact .inr ⟨_, _, _, rfl⟩
  -- the greater limits let the text through as well, and reading it does not depend on them
  rw [if_neg long, if_neg deep,
    if_neg fun long' => long (Nat.lt_of_le_of_lt within.expressionBytes long'),
    if_neg fun deep' => deep (Nat.lt_of_le_of_lt within.nestingDepth deep')]
  split
  · exact .inl rfl
  split
  · exact .inl rfl
  · rename_i formula read
    rcases build_persists within.clauses formula with same | ⟨error, stopped⟩
    · exact .inl same
    · exact .inr ⟨_, _, _, stopped⟩

theorem parse_mono (within : limits.Within limits')
    (run : parse facts limits source = .ok expression) :
    parse facts limits' source = .ok expression := by
  rcases parse_persists within facts source with same | ⟨name, limit, actual, stopped⟩
  · exact same.trans run
  · cases stopped.symm.trans run

/-- **Whatever limits let a text through, it writes one expression.** -/
theorem parse_unique (run : parse facts limits source = .ok expression)
    (run' : parse facts limits' source = .ok expression') : expression = expression' := by
  have first := parse_mono (limits.within_max_left limits') run
  have second := parse_mono (limits.within_max_right limits') run'
  exact Except.ok.inj (first.symm.trans second)

/-! ### The limit on clauses -/

/-- **A parsed expression has no more alternatives than clauses are allowed.** The constants are one
alternative each, so this takes a limit that allows one clause. -/
theorem length_alternatives_of_parse (some' : 1 ≤ limits.clauses)
    (run : parse facts limits source = .ok expression) :
    expression.alternatives.length ≤ limits.clauses := by
  unfold alternatives
  split
  · exact some'
  · rw [List.length_map]
    rcases room_of_parse run with rfl | room
    · exact some'
    · exact room

/-- **Raising limits changes nothing, and no expression exceeds the limit on clauses.** What a text
writes within limits it writes within all that are at least as great, literal by literal, and it has
no more clauses than they allow, if they allow one. -/
theorem parse_raised (run : parse facts limits source = .ok expression) :
    (∀ limits', limits.Within limits' → parse facts limits' source = .ok expression) ∧
      (1 ≤ limits.clauses → expression.alternatives.length ≤ limits.clauses) :=
  ⟨fun _ within => parse_mono within run, fun some' => length_alternatives_of_parse some' run⟩

end Engine

/-- The text `a || b` is parsed within two clauses, hence within the default limits, and has as
many. Within one clause it is refused. -/
theorem parse_raised_two_keys :
    parse none ⟨6, 0, 2⟩ "a || b" =
        .ok ⟨[[.test (.has "a") true], [.test (.has "b") true]]⟩ ∧
      parse none {} "a || b" = .ok ⟨[[.test (.has "a") true], [.test (.has "b") true]]⟩ ∧
      (Expression.mk [[.test (.has "a") true], [.test (.has "b") true]]).alternatives.length ≤ 2 ∧
      parse none ⟨6, 0, 1⟩ "a || b" = .error (.limitExceeded .clauses 1 2) := by
  have read : Grammar.read "a || b".toList =
      .ok (.any [.all [.test (.has ['a'])], .all [.test (.has ['b'])]]) := by rfl
  have parts : ∀ limit, Formula.buildAll none limit "a || b".toList
      [.all [.test (.has ['a'])], .all [.test (.has ['b'])]] =
        .ok ([[.test (.has "a") true], [.test (.has "b") true]].map ofClause) := fun limit =>
    (buildAll_append [_] [_]).trans
      (bind_eq_ok.mpr ⟨_, buildAll_test rfl, bind_eq_ok.mpr ⟨_, buildAll_test rfl, rfl⟩⟩)
  have complete : Complete [[.test (.has "a") true], [.test (.has "b") true]] :=
    complete_of_positive (List.pairwise_pair.mpr ⟨rfl, rfl⟩) (by simp)
  have run : parse none ⟨6, 0, 2⟩ "a || b" =
      .ok ⟨[[.test (.has "a") true], [.test (.has "b") true]]⟩ := by
    rw [parse_eq_build (by decide) (by decide) ⟨'a', by decide, by decide⟩ read]
    exact build_join .any (parts 2) (disjWithin_map_ofClause complete (by simp) (Nat.le_refl 2))
  have refused : parse none ⟨6, 0, 1⟩ "a || b" = .error (.limitExceeded .clauses 1 2) := by
    rw [parse_eq_build (by decide) (by decide) ⟨'a', by decide, by decide⟩ read, Formula.build,
      parts 1]
    rfl
  obtain ⟨raised, room⟩ := parse_raised run
  exact ⟨run, raised {} ⟨by decide, by decide, by decide⟩, room (by decide), refused⟩

end WhenClause

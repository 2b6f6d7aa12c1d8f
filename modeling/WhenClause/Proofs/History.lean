/-
**Negation over the history of a session.**

A session goes through commands: it makes the platform known, or keeps under a name what an operation
makes of the expressions it keeps. The operations that build literals read the facts of the moment,
and so does negation. Evaluation does not.

* `Session.facts_run`, `Session.Holds.run`: facts once known stay, and as long as they do not change,
  everything kept was built under them;
* `value_negateLiteral_underFacts`: a negated test has the opposite of the value that the facts leave
  of the test, whenever it was built, and so has a whole negation;
* `Session.borneOut_of_tells`: contexts that tell the platform answer what was built before it was
  known as the facts do, but for one kind of test;
* `evaluate_negate_later`: so an expression kept at any moment is negated rightly at any later one,
  unless the platform has become known in between and tells otherwise than the context does;
* `evaluate_negate_platform_key`: where it does, an expression and its negation may both fail.
-/

import WhenClause.Proofs.Substitution
import WhenClause.Regex.Engine
import WhenClause.Session

namespace WhenClause

open Expression

theorem eq_ok_of_toOption {ε α : Type} {outcome : Except ε α} {value : α}
    (same : outcome.toOption = some value) : outcome = .ok value := by
  cases outcome with
  | ok _ =>
    cases same
    rfl
  | error _ => cases same

section Engine

variable [PatternEngine]
variable {known : Facts → Prop} {facts : Facts} {session : Session} {expression result : Expression}
  {literal : Literal} {context : Context} {name : String}

/-! ### Sessions -/

/-- What a program may do with the expressions that it keeps under names. The constructors named
after tests are instances of `literal`, and substituting constants is renaming each key to itself; a
JSON value is a text to parse, or a constant. -/
inductive Operation where
  | constant (value : Bool)
  | literal (literal : Literal)
  | parse (limits : Limits) (text : String)
  | conj (operands : List String)
  | disj (operands : List String)
  | conjWithin (limit : Nat) (operands : List String)
  | disjWithin (limit : Nat) (operands : List String)
  | negate (operand : String)
  | negateWithin (limit : Nat) (operand : String)
  | rename (naming : String → String) (operand : String)
  | alternative (index : Nat) (operand : String)
  | conjunct (index : Nat) (operand : String)

/-- What an operation makes of the expressions that a session keeps. Nothing comes of one that fails
or asks for what is not kept. -/
def Operation.result? (session : Session) : Operation → Option Expression
  | .constant value => some (ofBool value)
  | .literal literal => some (ofLiteral session.facts literal)
  | .parse limits text => (Expression.parse session.facts limits text).toOption
  | .conj operands => (operands.mapM session.find?).map Expression.conj
  | .disj operands => (operands.mapM session.find?).map Expression.disj
  | .conjWithin limit operands =>
    (operands.mapM session.find?).bind fun operands => (Expression.conjWithin limit operands).toOption
  | .disjWithin limit operands =>
    (operands.mapM session.find?).bind fun operands => (Expression.disjWithin limit operands).toOption
  | .negate operand => (session.find? operand).map (·.negate session.facts)
  | .negateWithin limit operand =>
    (session.find? operand).bind fun operand => (operand.negateWithin session.facts limit).toOption
  | .rename naming operand => (session.find? operand).map (·.rename session.facts naming)
  | .alternative index operand => (session.find? operand).bind (·.alternatives[index]?)
  | .conjunct index operand => (session.find? operand).bind (·.conjuncts[index]?)

/-- A step of a session. -/
inductive Command where
  | resolve (host : Platform)
  | keep (name : String) (operation : Operation)

namespace Session

/-- The session after a command. -/
def perform (session : Session) : Command → Session
  | .resolve host => (session.resolve host).1
  | .keep name operation =>
    match operation.result? session with
    | some expression => session.store name expression
    | none => session

/-- The session after several commands. -/
def run (session : Session) (commands : List Command) : Session := commands.foldl perform session

/-- **Facts that are known stay as they are.** -/
theorem facts_perform (session : Session) (command : Command) :
    session.facts = .unresolved ∨ (session.perform command).facts = session.facts := by
  cases command with
  | resolve host =>
    cases known : session.facts with
    | none => exact Or.inl rfl
    | some platform => exact Or.inr (by rw [perform, resolve_of_some known, known])
  | keep name operation =>
    cases made : operation.result? session with
    | none => exact Or.inr (by simp only [perform, made])
    | some expression => exact Or.inr (by simp only [perform, made]; rfl)

theorem facts_run (session : Session) (commands : List Command) :
    session.facts = .unresolved ∨ (session.run commands).facts = session.facts := by
  induction commands generalizing session with
  | nil => exact Or.inr rfl
  | cons command commands ih =>
    -- what the first command leaves known the others do
    rcases session.facts_perform command with unknown | same
    · exact Or.inl unknown
    · rcases ih (session.perform command) with unknown | same'
      · exact Or.inl (same ▸ unknown)
      · exact Or.inr (same'.trans same)

/-- Everything that the session keeps was built under such facts. -/
def Holds (known : Facts → Prop) (session : Session) : Prop :=
  ∀ name expression, session.find? name = some expression → Built known expression

theorem holds_empty (known : Facts → Prop) (facts : Facts) : Holds known { facts } := nofun

/-- Several names find what is kept under each. -/
theorem Holds.mapM {names : List String} {operands : List Expression}
    (holds : session.Holds known) (found : names.mapM session.find? = some operands) :
    ∀ operand ∈ operands, Built known operand := by
  induction names generalizing operands with
  | nil =>
    cases found
    exact nofun
  | cons name names ih =>
    rw [List.mapM_cons] at found
    obtain ⟨first, found', rest⟩ := Option.bind_eq_some_iff.mp found
    obtain ⟨others, among, same⟩ := Option.bind_eq_some_iff.mp rest
    cases same
    exact List.forall_mem_cons.mpr ⟨holds name first found', ih among⟩

/-- **An operation builds its result under the facts of the moment.** -/
theorem Holds.result? (holds : session.Holds known) (now : known session.facts)
    {operation : Operation} (made : operation.result? session = some result) :
    Built known result := by
  cases operation with
  | constant value =>
    cases made
    exact .constant value
  | literal literal =>
    cases made
    exact .literal now literal
  | parse limits text => exact .parse now (eq_ok_of_toOption made)
  | conj operands =>
    obtain ⟨operands, found, rfl⟩ := Option.map_eq_some_iff.mp made
    exact .conj (holds.mapM found)
  | disj operands =>
    obtain ⟨operands, found, rfl⟩ := Option.map_eq_some_iff.mp made
    exact .disj (holds.mapM found)
  | conjWithin limit operands =>
    obtain ⟨operands, found, run⟩ := Option.bind_eq_some_iff.mp made
    exact .conjWithin (holds.mapM found) (eq_ok_of_toOption run)
  | disjWithin limit operands =>
    obtain ⟨operands, found, run⟩ := Option.bind_eq_some_iff.mp made
    exact .disjWithin (holds.mapM found) (eq_ok_of_toOption run)
  | negate operand =>
    obtain ⟨operand, found, rfl⟩ := Option.map_eq_some_iff.mp made
    exact .negate now (holds _ operand found)
  | negateWithin limit operand =>
    obtain ⟨operand, found, run⟩ := Option.bind_eq_some_iff.mp made
    exact .negateWithin now (holds _ operand found) (eq_ok_of_toOption run)
  | rename naming operand =>
    obtain ⟨operand, found, rfl⟩ := Option.map_eq_some_iff.mp made
    exact .rename now naming (holds _ operand found)
  | alternative index operand =>
    obtain ⟨operand, found, part⟩ := Option.bind_eq_some_iff.mp made
    exact .alternative (holds _ operand found) (List.mem_of_getElem? part)
  | conjunct index operand =>
    obtain ⟨operand, found, part⟩ := Option.bind_eq_some_iff.mp made
    exact .conjunct (holds _ operand found) (List.mem_of_getElem? part)

/-- **Each command keeps it so that everything was built under such facts.** -/
theorem Holds.perform (holds : session.Holds known) (now : known session.facts) (command : Command) :
    (session.perform command).Holds known := by
  cases command with
  | resolve host =>
    intro name expression found
    refine holds name expression ?_
    rw [find?, ← registers_resolve session host]
    exact found
  | keep name operation =>
    cases made : operation.result? session with
    | none =>
      simp only [Session.perform, made]
      exact holds
    | some result =>
      simp only [Session.perform, made]
      intro other expression found
      by_cases same : other = name
      · rw [same, find?_store_self] at found
        cases found
        exact holds.result? now made
      · rw [find?_store_of_ne session result same] at found
        exact holds other expression found

/-- **As long as the facts are the same, everything was built under them.** -/
theorem Holds.run (holds : session.Holds (· = facts)) (before : session.facts = facts)
    {commands : List Command} (after : (session.run commands).facts = facts) :
    (session.run commands).Holds (· = facts) := by
  induction commands generalizing session with
  | nil => exact holds
  | cons command commands ih =>
    have between : (session.perform command).facts = facts := by
      rcases session.facts_perform command with unknown | same
      · rcases (session.perform command).facts_run commands with unknown' | same'
        · rw [unknown', ← before, unknown]
        · exact same'.symm.trans after
      · exact same.trans before
    exact ih (holds.perform before command) between after

/-- Whatever becomes known in between, everything was built by operations. -/
theorem Holds.run_any (holds : session.Holds fun _ => True) (commands : List Command) :
    (session.run commands).Holds fun _ => True := by
  induction commands generalizing session with
  | nil => exact holds
  | cons command commands ih => exact ih (holds.perform trivial command)

/-- So without facts all literals that a session keeps are as they stand. -/
theorem free_of_kept {commands : List Command}
    (kept : (run {} commands).find? name = some expression) : expression.Free Facts.unresolved :=
  ((holds_empty _ _).run_any commands name expression kept).free_unresolved

/-- **If the platform is not resolved between the first command that builds and the last one, all
that a session keeps was built under the facts at the end.** -/
theorem built_of_settled {earlier later : List Command}
    (kept : (run {} earlier).find? name = some expression)
    (now : ((run {} earlier).run later).facts = facts)
    (settled : facts = .unresolved ∨ ∃ host rest, earlier = .resolve host :: rest) :
    Built (· = facts) expression := by
  rcases settled with rfl | ⟨host, rest, rfl⟩
  · have between : (run {} earlier).facts = .unresolved :=
      ((run {} earlier).facts_run later).elim id fun same => same.symm.trans now
    exact (holds_empty _ _).run rfl between name expression kept
  · have between : (run { facts := some host } rest).facts = some host :=
      (facts_run { facts := some host } rest).resolve_left nofun
    have after : facts = some host := by
      rcases (run { facts := some host } rest).facts_run later with unknown | same
      · rw [between] at unknown
        cases unknown
      · exact now.symm.trans (same.trans between)
    subst after
    exact (holds_empty _ _).run rfl between name expression kept

end Session

/-! ### Negations under facts -/

/-- A test that is negated under the facts has the opposite of its value under them. -/
theorem value_negateLiteral_underFacts (facts : Facts) (assignment : Assignment)
    (test : literal.isTest = true) :
    (negateLiteral facts literal).value assignment =
      !literal.value (assignment.underFacts facts) := by
  cases literal with
  | test question holds =>
    have opposite : ∀ truth holds : Bool, (truth == !holds) = !(truth == holds) := by decide
    exact (value_ofTest facts assignment question (!holds)).trans (opposite _ holds)
  | ordered key comparison bound => cases test

/-! ### What contexts bear out -/

/-- A literal has the same answer in the context when it is built anew under the facts. -/
def Literal.BorneOut (facts : Facts) (context : Context) (literal : Literal) : Prop :=
  (ofLiteral facts literal).evaluate context = literal.evaluate context

/-- A context bears out every literal that the facts leave as it stands. -/
theorem Literal.Free.borneOut (free : literal.Free facts) (context : Context) :
    literal.BorneOut facts context := by
  rw [BorneOut, ofLiteral_of_free free, evaluate_single]

/-- **A context that tells the facts of a platform bears out what a session keeps**, but for literals
that compare a platform key with the number of its fact. -/
theorem Session.borneOut_of_tells {commands : List Command} {platform : Platform}
    (kept : (Session.run {} commands).find? name = some expression)
    (tells : context.Tells platform)
    (plain : ∀ clause ∈ expression.clauses, ∀ literal ∈ clause,
      literal.asksTruthNumber platform = false) :
    ∀ clause ∈ expression.clauses, ∀ literal ∈ clause,
      literal.BorneOut (some platform) context := by
  intro clause inside literal member
  have free := Session.free_of_kept kept clause inside literal member
  rw [Literal.BorneOut, evaluate_ofLiteral free tells, plain clause inside literal member,
    Bool.bne_false]

/-- Where the literals are borne out, the facts leave an expression its value. -/
theorem value_underFacts_of_borneOut
    (borneOut : ∀ clause ∈ expression.clauses, ∀ literal ∈ clause, literal.BorneOut facts context) :
    expression.value (context.assignment.underFacts facts) = expression.evaluate context := by
  rw [← Expression.value_assignment]
  refine any_all_congr_of_mem fun clause inside literal member => ?_
  rw [← value_ofLiteral, Expression.value_assignment, borneOut clause inside literal member,
    ← evaluate_single, ← Expression.value_assignment, value_single]

/-- **Negation over the history of a session.** Take an expression without comparisons that a session
keeps, and its negation at any later moment. Without NaN it returns. Whatever it returns evaluates to
the opposite of the expression, in every context if the platform is still unknown or was known
before anything was built, and else in each context that bears out the literals of the expression. -/
theorem evaluate_negate_later {earlier later : List Command}
    (kept : (Session.run {} earlier).find? name = some expression)
    (tests : expression.ComparisonFree)
    (now : ((Session.run {} earlier).run later).facts = facts) :
    (expression.NaNFree → expression.NegationReturns facts (expression.negate facts)) ∧
      ∀ result, expression.NegationReturns facts result → ∀ context,
        (facts = .unresolved ∨ (∃ host rest, earlier = .resolve host :: rest) ∨
          ∀ clause ∈ expression.clauses, ∀ literal ∈ clause, literal.BorneOut facts context) →
        result.evaluate context = !expression.evaluate context := by
  refine ⟨negateWithin_ends, fun result returns context settled => ?_⟩
  have borneOut : ∀ clause ∈ expression.clauses, ∀ literal ∈ clause,
      literal.BorneOut facts context := by
    rcases or_assoc.mpr settled with settled | borneOut
    · have built := Session.built_of_settled kept now settled
      exact fun clause inside literal member =>
        (built.free clause inside literal member).borneOut context
    · exact borneOut
  obtain ⟨limit, run⟩ := returns
  have turned := value_negateWithin (fun clause inside literal member =>
    value_negateLiteral_underFacts facts context.assignment (tests clause inside literal member)) run
  rw [← Expression.value_assignment, turned, value_underFacts_of_borneOut borneOut]

end Engine

/-- A program that keeps `isMac && editorFocus` under the name `e`. -/
def keepsBoth : List Command :=
  [.keep "mac" (.literal (.test (.has "isMac") true)),
    .keep "focus" (.literal (.test (.has "editorFocus") true)), .keep "e" (.conj ["mac", "focus"])]

/-- After the platform has turned out to be a Mac, `isMac && editorFocus` is negated to the opposite
of itself in a context that tells so. -/
theorem evaluate_negate_later_mac :
    (Session.run {} keepsBoth).find? "e" =
        some (ofClause [.test (.has "isMac") true, .test (.has "editorFocus") true]) ∧
      ((Session.run {} keepsBoth).run [.resolve .mac]).facts = some .mac ∧
      ∃ result, NegationReturns (some .mac)
          (ofClause [.test (.has "isMac") true, .test (.has "editorFocus") true]) result ∧
        result.evaluate macContext = !Expression.evaluate macContext
          (ofClause [.test (.has "isMac") true, .test (.has "editorFocus") true]) := by
  have consistent : Clause.Consistent [.test (.has "isMac") true, .test (.has "editorFocus") true] :=
    List.pairwise_pair.mpr ⟨rfl, rfl⟩
  have kept : (Session.run {} keepsBoth).find? "e" =
      some (ofClause [.test (.has "isMac") true, .test (.has "editorFocus") true]) := by
    rw [← conj_map_single consistent]
    rfl
  have literals : ∀ {property : Literal → Prop}, property (.test (.has "isMac") true) →
      property (.test (.has "editorFocus") true) → ∀ clause ∈ (ofClause
        [.test (.has "isMac") true, .test (.has "editorFocus") true]).clauses,
          ∀ literal ∈ clause, property literal := fun first second =>
    List.forall_mem_singleton.mpr (List.forall_mem_cons.mpr ⟨first,
      List.forall_mem_singleton.mpr second⟩)
  have now : ((Session.run {} keepsBoth).run [.resolve .mac]).facts = some .mac := rfl
  obtain ⟨returns, opposite⟩ := evaluate_negate_later kept (literals rfl rfl) now
  have borneOut := Session.borneOut_of_tells kept macContext_tells (literals rfl rfl)
  exact ⟨kept, now, _, returns (literals rfl rfl),
    opposite _ (returns (literals rfl rfl)) macContext (Or.inr (Or.inr borneOut))⟩

/-- Kept as `e` while the platform is unknown, and negated on a Mac, `isMac` is negated to what never
holds. In a context without keys it does not hold either. -/
theorem evaluate_negate_platform_key :
    (Session.run {} [.keep "e" (.literal (.test (.has "isMac") true))]).find? "e" =
        some (has .unresolved "isMac") ∧
      (has .unresolved "isMac").ComparisonFree ∧
      ((Session.run {} [.keep "e" (.literal (.test (.has "isMac") true))]).run
        [.resolve .mac]).facts = some .mac ∧
      (has .unresolved "isMac").negate (some .mac) = never ∧
      never.evaluate (fun _ => none) = false ∧
      (has .unresolved "isMac").evaluate (fun _ => none) = false :=
  ⟨rfl, List.forall_mem_singleton.mpr (List.forall_mem_singleton.mpr rfl), rfl, rfl, rfl, rfl⟩

end WhenClause

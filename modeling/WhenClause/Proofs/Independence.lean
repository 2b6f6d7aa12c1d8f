/-
**What is left to a context once the platform is known.**

Under the facts of a platform a test of truth or equality is a constant where it asks for a platform
key, so none that is left does. The other literals are built without a look at the facts: a pattern,
a membership or an ordering reads a platform key in every context as any other key.

* `Expression.Built.not_mem_keys_of_asksFacts`: what is left of the others asks no platform key;
* `evaluate_congr_unfolded`: hence contexts need to agree only on the platform keys that patterns,
  memberships and orderings read;
* `evaluate_isIn_platform_key`: on these they need to agree.
-/

import WhenClause.Proofs.Dependence
import WhenClause.Proofs.FreeLiteral
import WhenClause.Regex.Engine

namespace WhenClause

open Expression

/-- A platform fixes its own keys and no others. -/
theorem Platform.fact?_eq_none_iff {platform : Platform} {key : String} :
    platform.fact? key = none ↔ key ∉ Platform.keys := by
  unfold fact? keys
  split
  · simp [*]
  · split
    · simp [*]
    · split <;> simp [*]

section Engine

variable [PatternEngine]
variable {platform : Platform} {expression : Expression} {clause : Clause} {literal : Literal}
  {context context' : Context} {key : String}

/-! ### Literals that are folded -/

/-- Whether the facts are asked about the key of a literal. -/
def Literal.asksFacts : Literal → Bool
  | .test (.has _) _ => true
  | .test (.equals _ _) _ => true
  | _ => false

/-- **No platform key is left to be folded.** -/
theorem Expression.Built.not_mem_keys_of_asksFacts (built : Built (· = some platform) expression)
    (inside : clause ∈ expression.clauses) (member : literal ∈ clause)
    (asked : literal.asksFacts = true) : ∀ key ∈ literal.keys, key ∉ Platform.keys := by
  have free := built.free clause inside literal member
  cases literal with
  | test question holds =>
    cases question with
    | has key =>
      exact List.forall_mem_singleton.mpr (Platform.fact?_eq_none_iff.mp free)
    | equals key value =>
      exact List.forall_mem_singleton.mpr (Platform.fact?_eq_none_iff.mp free.1)
    | matching key pattern => cases asked
    | member key container => cases asked
  | ordered key comparison bound => cases asked

/-! ### Contexts that agree off the platform -/

/-- Two contexts agree on all keys that do not tell the platform. -/
def Context.AgreesOffPlatform (context context' : Context) : Prop :=
  ∀ key, key ∉ Platform.keys → context key = context' key

/-- Two contexts agree on what the literals read that are built without the facts. -/
def Expression.AgreeUnfolded (expression : Expression) (context context' : Context) : Prop :=
  ∀ clause ∈ expression.clauses, ∀ literal ∈ clause, literal.asksFacts = false →
    ∀ key ∈ literal.keys, context key = context' key

/-- **Tests of truth and equality are folded.** Of an expression that is built once the platform is
known, no test of truth or equality asks a platform key. It evaluates alike in contexts that agree on
the other keys, and on what its patterns, memberships and orderings read. -/
theorem evaluate_congr_unfolded (built : Built (· = some platform) expression) :
    (∀ clause ∈ expression.clauses, ∀ literal ∈ clause, literal.asksFacts = true →
      ∀ key ∈ literal.keys, key ∉ Platform.keys) ∧
    ∀ context context' : Context, context.AgreesOffPlatform context' →
      expression.AgreeUnfolded context context' →
      expression.evaluate context = expression.evaluate context' := by
  refine ⟨fun clause inside literal member => built.not_mem_keys_of_asksFacts inside member,
    fun context context' off unfolded => evaluate_congr_keys fun key reads => ?_⟩
  obtain ⟨clause, inside, literal, member, reads⟩ := Expression.mem_keys.mp reads
  cases asked : literal.asksFacts with
  | false => exact unfolded clause inside literal member asked key reads
  | true => exact off key (built.not_mem_keys_of_asksFacts inside member asked key reads)

end Engine

/-- The context in which the platform keys have one truth value, and every other key lists `true`. -/
def flagContext (fact : Bool) : Context := fun key =>
  if key ∈ Platform.keys then some (.boolean fact) else some (.array [.boolean true])

theorem flagContext_agrees (fact fact' : Bool) :
    (flagContext fact).AgreesOffPlatform (flagContext fact') := fun key other => by
  rw [flagContext, flagContext, if_neg other, if_neg other]

/-- On a Mac `isLinux || a in list` is `a in list`, whatever a context says of Linux. -/
theorem evaluate_congr_unfolded_mac :
    (disj [has (some .mac) "isLinux", isIn "a" "list"]).evaluate (flagContext true) =
      (disj [has (some .mac) "isLinux", isIn "a" "list"]).evaluate (flagContext false) := by
  have built : ∀ operand ∈ [has (some .mac) "isLinux", isIn "a" "list"],
      Built (· = some .mac) operand :=
    forall_mem_pair (@Built.ofTest _ (· = some .mac) _ rfl _ _)
      (@Built.ofTest _ (· = some .mac) (some .mac) rfl (.member "a" "list") true)
  have clauses : (disj [has (some .mac) "isLinux", isIn "a" "list"]).clauses =
      [[.test (.member "a" "list") true]] := by cbv
  refine (evaluate_congr_unfolded (Built.disj built)).2 _ _ (flagContext_agrees true false) ?_
  rw [AgreeUnfolded, clauses]
  refine List.forall_mem_singleton.mpr (List.forall_mem_singleton.mpr fun _ => ?_)
  exact forall_mem_pair rfl rfl

/-- On a Mac `isMac in flags` is not folded: where `flags` lists `true` it holds in a context that
says `true` of `isMac`, and fails in one that agrees with it on all other keys. -/
theorem evaluate_isIn_platform_key :
    Built (· = some .mac) (isIn "isMac" "flags") ∧
      (flagContext true).AgreesOffPlatform (flagContext false) ∧
      (isIn "isMac" "flags").evaluate (flagContext true) = true ∧
      (isIn "isMac" "flags").evaluate (flagContext false) = false :=
  ⟨@Built.ofTest _ (· = some .mac) (some .mac) rfl (.member "isMac" "flags") true,
    flagContext_agrees true false, by decide, by decide⟩

end WhenClause

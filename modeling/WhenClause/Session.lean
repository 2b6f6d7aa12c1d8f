/-
**Sessions.**

A session knows the platform from the moment it is resolved, and keeps expressions under names. The
platform is resolved once: later answers change nothing, and the host is not asked again.
Expressions that were built before are kept as they are.

* `Session.resolve` makes the platform known, the first time only (`resolve_of_some`).
* `Session.store` keeps an expression under one name (`find?_store_self`, `find?_store_of_ne`).
-/

import WhenClause.Expression.Construct

namespace WhenClause

variable [PatternEngine]

structure Session where
  facts : Facts := .unresolved
  registers : List (String × Expression) := []
  deriving Inhabited

namespace Session

/-- The session after the platform has been resolved, and the number of times its host was asked. -/
def resolve (session : Session) (host : Platform) : Session × Nat :=
  match session.facts with
  | some _ => (session, 0)
  | none => ({ session with facts := some host }, 1)

/-- The session with an expression kept under a name. -/
def store (session : Session) (name : String) (expression : Expression) : Session :=
  { session with
    registers := (name, expression) :: session.registers.filter (·.1 != name) }

/-- The expression kept under a name. -/
def find? (session : Session) (name : String) : Option Expression := session.registers.lookup name

@[simp] theorem resolve_of_some {session : Session} {platform host : Platform}
    (known : session.facts = some platform) : session.resolve host = (session, 0) := by
  simp [resolve, known]

@[simp] theorem find?_store_self (session : Session) (name : String) (expression : Expression) :
    (session.store name expression).find? name = some expression := by
  simp [store, find?]

/-- What is kept under other names is left as it is. -/
theorem find?_store_of_ne (session : Session) {name other : String} (expression : Expression)
    (different : other ≠ name) :
    (session.store name expression).find? other = session.find? other := by
  have head : (other == name) = false := by simp [different]
  simp only [store, find?, List.lookup_cons, head]
  induction session.registers with
  | nil => rfl
  | cons register registers ih =>
    obtain ⟨key, kept⟩ := register
    by_cases same : key = name
    · subst same
      simp [ih, List.lookup_cons, head]
    · by_cases found : other = key
      · subst found
        simp [same]
      · have skip : (other == key) = false := by simp [found]
        simp [same, List.lookup_cons, skip, ih]

theorem registers_resolve (session : Session) (host : Platform) :
    (session.resolve host).1.registers = session.registers := by
  unfold resolve
  split <;> rfl

end Session

end WhenClause

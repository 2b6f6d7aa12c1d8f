/-
**Pattern literals.**

A `PatternLiteral` is a pattern source with flags, written `/source/flags`. It can only be made of a
source and flags that compile. Of the flags `dgimsuy` only `i`, `m`, `s` and `u` are kept, in this
order.

What a source means is left to an engine: expressions, their texts and their values are those of any
`PatternEngine`. All that is asked of it is that it compiles equal sources under equal switches
alike, so that source and flags determine a literal (`PatternLiteral.eq_of_beq`).
-/

namespace WhenClause

/-! ### Engines -/

/-- The switches that flags turn on. -/
structure PatternSwitches where
  ignoreCase : Bool
  multiLine : Bool
  dotMatchesNewline : Bool
  deriving DecidableEq, Repr

/-- An engine that compiles pattern sources and looks for matches. A source compiles to one pattern
at most: `compile?` is a function of the switches and the source and of nothing else. -/
class PatternEngine where
  /-- What a source compiles to. -/
  Pattern : Type
  /-- The pattern of a source under switches, unless the source is malformed. -/
  compile? : PatternSwitches → List Char → Option Pattern
  /-- Whether some part of a text matches. -/
  occursIn : Pattern → String → Bool

variable [PatternEngine]

/-- Why a source and flags make no pattern literal. -/
inductive PatternError where
  | emptySource
  | unsupportedFlag (flag : Char)
  | malformed
  deriving DecidableEq, Repr

/-- The message of a pattern error; what is wrong within a malformed pattern is not told. -/
def PatternError.message : PatternError → String
  | .emptySource => "regex source is empty"
  | .unsupportedFlag flag => "unsupported regex flag '" ++ flag.toString ++ "'"
  | .malformed => "<regex error>"

/-! ### Sources and flags -/

/-- The flags that a literal may have. -/
def acceptedFlags : List Char := "dgimsuy".toList

/-- The flags that a literal keeps; the others bear on repeated searches only. -/
def keptFlags : List Char := ['i', 'm', 's', 'u']

/-- The flags as they are kept. -/
def canonicalFlags (flags : List Char) : String := String.ofList (keptFlags.filter flags.contains)

/-- `unescapeSlashes` behind the characters `before`, the last one first. -/
def unescapeSlashesFrom (before : List Char) : List Char → List Char
  | '\\' :: escaped :: rest =>
    if escaped = '/' then unescapeSlashesFrom ('/' :: before) rest
    else unescapeSlashesFrom (escaped :: '\\' :: before) rest
  | c :: rest => unescapeSlashesFrom (c :: before) rest
  | [] => before.reverse

/-- The source with `\/` read as a slash. -/
def unescapeSlashes (source : List Char) : List Char := unescapeSlashesFrom [] source

/-- The switches of flags; Unicode is always on. -/
def PatternSwitches.ofFlags (flags : String) : PatternSwitches where
  ignoreCase := flags.contains 'i'
  multiLine := flags.contains 'm'
  dotMatchesNewline := flags.contains 's'

/-- The pattern of a source under the kept flags. -/
def compilePattern? (source flags : String) : Option PatternEngine.Pattern :=
  PatternEngine.compile? (.ofFlags flags) (unescapeSlashes source.toList)

/-! ### Literals -/

/-- A source with its flags, and the pattern they compile to. -/
structure PatternLiteral where
  source : String
  flags : String
  pattern : PatternEngine.Pattern
  compiles : compilePattern? source flags = some pattern

namespace PatternLiteral

/-- The literal of a source and flags. The source is looked at first, then the flags. -/
def ofSource (source : String) (flags : List Char) : Except PatternError PatternLiteral :=
  if source.isEmpty then .error .emptySource
  else
    match flags.find? (!acceptedFlags.contains ·) with
    | some flag => .error (.unsupportedFlag flag)
    | none =>
      let kept := canonicalFlags flags
      match compiles : compilePattern? source kept with
      | some pattern => .ok ⟨source, kept, pattern, compiles⟩
      | none => .error .malformed

instance : BEq PatternLiteral where
  beq left right := left.source == right.source && left.flags == right.flags

/-- Source and flags between slashes. -/
def render (literal : PatternLiteral) : String := "/" ++ literal.source ++ "/" ++ literal.flags

/-- Whether some part of a text matches. -/
def occursIn (literal : PatternLiteral) (text : String) : Bool :=
  PatternEngine.occursIn literal.pattern text

/-- Source and flags determine a literal: the engine compiles equal sources under equal switches
alike. -/
theorem eq_of_beq {left right : PatternLiteral} (equal : (left == right) = true) :
    left = right := by
  obtain ⟨source, flags, pattern, compiles⟩ := left
  obtain ⟨source', flags', pattern', compiles'⟩ := right
  simp only [BEq.beq, Bool.and_eq_true, decide_eq_true_eq] at equal
  obtain ⟨rfl, rfl⟩ := equal
  obtain rfl : pattern = pattern' := Option.some.inj (compiles.symm.trans compiles')
  rfl

theorem beq_self (literal : PatternLiteral) : (literal == literal) = true := by
  simp [BEq.beq]

instance : LawfulBEq PatternLiteral where
  eq_of_beq := eq_of_beq
  rfl := beq_self _

end PatternLiteral

end WhenClause

/-
**The outline of a text.**

The outline is what stands outside quotes and pattern literals, found without the grammar: a scan in
one pass, whose `Mode` says where it is. It gives a bound on the nesting of groups before anything
is read (`nestingDepth`), and a hint at a mistyped operator when reading has failed (`suggest?`).
-/

import WhenClause.Text.Blank

namespace WhenClause.Grammar

/-! ### Scanning -/

/-- Where the scan of a text is. In plain text a slash begins a pattern literal if nothing but
blanks stands between it and a `=~`; a literal has classes, in which a slash does not end it. -/
inductive Mode where
  | plain (behindEqual behindMatch : Bool)
  | quoted
  | quotedEscape
  | pattern (inClass : Bool)
  | patternEscape (inClass : Bool)
  deriving DecidableEq, Repr

namespace Mode

def start : Mode := plain false false

/-- The mode behind one more character, and whether the character belongs to the outline. -/
def step : Mode → Char → Mode × Bool
  | plain behindEqual behindMatch, c =>
    if c = '\'' then (quoted, false)
    else if c = '/' ∧ behindMatch then (pattern false, false)
    else if isBlank c then (plain false behindMatch, true)
    else if c = '=' then (plain true false, true)
    else if c = '~' ∧ behindEqual then (plain false true, true)
    else (plain false false, true)
  | quoted, c =>
    if c = '\\' then (quotedEscape, false)
    else if c = '\'' then (plain false false, false)
    else (quoted, false)
  | quotedEscape, _ => (quoted, false)
  | pattern inClass, c =>
    if c = '\\' then (patternEscape inClass, false)
    else if c = '[' then (pattern true, false)
    else if c = ']' then (pattern false, false)
    else if c = '/' ∧ !inClass then (plain false false, false)
    else (pattern inClass, false)
  | patternEscape inClass, _ => (pattern inClass, false)

end Mode

/-! ### Nesting -/

/-- The depth of open parentheses, and the greatest depth so far. -/
structure Depth where
  current : Nat
  greatest : Nat
  deriving DecidableEq, Repr

/-- The depth behind one more character of the outline. -/
def Depth.step (depth : Depth) (c : Char) : Depth :=
  if c = '(' then ⟨depth.current + 1, max depth.greatest (depth.current + 1)⟩
  else if c = ')' then ⟨depth.current - 1, depth.greatest⟩
  else depth

/-- The mode and the depth behind one more character. -/
def depthStep (state : Mode × Depth) (c : Char) : Mode × Depth :=
  let (mode, outlined) := state.1.step c
  (mode, if outlined then state.2.step c else state.2)

/-- The greatest depth of parentheses in the outline of a text. -/
def nestingDepth (text : List Char) : Nat :=
  (text.foldl depthStep (.start, ⟨0, 0⟩)).2.greatest

/-! ### Suggestions -/

/-- An operator that may have been meant. -/
inductive Suggestion where
  | equality
  | conjunction
  | disjunction
  deriving DecidableEq, Repr

def Suggestion.message : Suggestion → String
  | .equality => "Use '==' to compare a key with a value"
  | .conjunction => "Use '&&' for logical and"
  | .disjunction => "Use '||' for logical or"

/-- The operator that a character of the outline may have been meant for, given its neighbours. -/
def suggestionAt? (before : Option Char) (c : Char) (behind : Option Char) : Option Suggestion :=
  if c = '=' then
    if ['=', '!', '<', '>'].any (before == some ·) || ['=', '~'].any (behind == some ·) then none
    else some .equality
  else if c = '&' ∧ before ≠ some '&' ∧ behind ≠ some '&' then some .conjunction
  else if c = '|' ∧ before ≠ some '|' ∧ behind ≠ some '|' then some .disjunction
  else none

/-- The first suggestion from a place in a text on, given the mode there and the character
before. -/
def suggestFrom (mode : Mode) (before : Option Char) : List Char → Option Suggestion
  | [] => none
  | c :: rest =>
    let (next, outlined) := mode.step c
    match if outlined then suggestionAt? before c rest.head? else none with
    | some suggestion => some suggestion
    | none => suggestFrom next (some c) rest

/-- The first suggestion for a text. -/
def suggest? (text : List Char) : Option Suggestion := suggestFrom .start none text

end WhenClause.Grammar

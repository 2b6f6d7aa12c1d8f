/-
**The engine of the program.**

Patterns of expressions are compiled by `Pattern.read?` and matched by `Pattern.occursIn`. Only the
program, and statements about what it does with one text, name this engine; what is said of
expressions in general holds of every engine.
-/

import WhenClause.PatternLiteral
import WhenClause.Regex.Reader

namespace WhenClause.Regex

instance engine : PatternEngine where
  Pattern := Pattern
  compile? switches source :=
    Pattern.read?
      { ignoreCase := switches.ignoreCase
        multiLine := switches.multiLine
        dotMatchesNewline := switches.dotMatchesNewline }
      source
  occursIn := Pattern.occursIn

end WhenClause.Regex

/-
**Quoted text.**

Text stands between single quotes; `\'` and `\\` write a quote and a backslash, and any other
backslash stands for itself.

* `Quoted.encode` writes a text, quotes included.
* `Quoted.splitBody` divides what follows an opening quote into the raw body and the rest, which
  begins with the closing quote or is empty.
* `Quoted.unescape` reads a raw body.
-/

namespace WhenClause.Quoted

/-! ### Writing -/

/-- One character of a text as it stands between quotes. -/
def escape (c : Char) : List Char := if c = '\'' ∨ c = '\\' then ['\\', c] else [c]

/-- A text between quotes. -/
def encode (text : List Char) : List Char := '\'' :: text.flatMap escape ++ ['\'']

/-! ### Reading -/

/-- `splitBody` behind the characters `before`, the last one first. -/
def splitBodyFrom (before : List Char) : List Char → List Char × List Char
  | '\\' :: escaped :: rest => splitBodyFrom (escaped :: '\\' :: before) rest
  | '\'' :: rest => (before.reverse, '\'' :: rest)
  | c :: rest => splitBodyFrom (c :: before) rest
  | [] => (before.reverse, [])

/-- The raw body in front of the first quote that no backslash precedes, and the rest. A backslash
takes the next character with it. -/
def splitBody (text : List Char) : List Char × List Char := splitBodyFrom [] text

/-- `unescape` behind the characters `before`, the last one first. -/
def unescapeFrom (before : List Char) : List Char → List Char
  | '\\' :: escaped :: rest =>
    if escaped = '\'' ∨ escaped = '\\' then unescapeFrom (escaped :: before) rest
    else unescapeFrom (escaped :: '\\' :: before) rest
  | c :: rest => unescapeFrom (c :: before) rest
  | [] => before.reverse

/-- The text that a raw body writes. -/
def unescape (body : List Char) : List Char := unescapeFrom [] body

end WhenClause.Quoted

/-
**Options of a pattern and the pieces they bear on.**

`Options` are the switches that a pattern is read under: those given with it, and those that a group
`(?…)` in it turns on and off. The functions here give a single character, a named class and the
letter escapes their meaning under the options; a class that the options cannot express is `none`.
-/

import WhenClause.Regex.Pattern
import WhenClause.Unicode.Age
import WhenClause.Unicode.Fold
import WhenClause.Unicode.Property
import WhenClause.Unicode.Segment

namespace WhenClause.Regex

/-- The switches that a pattern is read under. -/
structure Options where
  ignoreCase : Bool := false
  multiLine : Bool := false
  dotMatchesNewline : Bool := false
  carriageReturn : Bool := false
  unicode : Bool := true
  spacing : Bool := false
  lazyFirst : Bool := false
  deriving DecidableEq, Repr

namespace Options

/-- The options with the switch of a letter on or off. -/
def set? (options : Options) (letter : Char) (on : Bool) : Option Options :=
  match letter with
  | 'i' => some { options with ignoreCase := on }
  | 'm' => some { options with multiLine := on }
  | 's' => some { options with dotMatchesNewline := on }
  | 'U' => some { options with lazyFirst := on }
  | 'u' => some { options with unicode := on }
  | 'R' => some { options with carriageReturn := on }
  | 'x' => some { options with spacing := on }
  | _ => none

/-! ### Sets under the options -/

def isAscii (set : CharSet) : Bool := set.ranges.all fun (_, last) => last < 0x80

/-- Without Unicode a set holds ASCII characters only. -/
def allow (options : Options) (set : CharSet) : Option CharSet :=
  if options.unicode || isAscii set then some set else none

/-- The set with both cases of its members, if case is ignored. -/
def fold (options : Options) (set : CharSet) : CharSet :=
  if !options.ignoreCase then set
  else if options.unicode then set.closeFold
  else set.closeFoldAscii

/-- A class as it stands: with both cases of its members, then perhaps its complement. -/
def close (options : Options) (negated : Bool) (set : CharSet) : Option CharSet :=
  let folded := options.fold set
  options.allow (if negated then folded.complement else folded)

/-- A character by itself. -/
def literal (options : Options) (c : Char) : CharSet := options.fold (.singleton c)

/-- What a point matches: everything but a line end, or everything. -/
def dot (options : Options) : Option CharSet :=
  options.allow <|
    if options.dotMatchesNewline then .full
    else if options.carriageReturn then (CharSet.ofRanges [(10, 10), (13, 13)]).complement
    else (CharSet.singleton '\n').complement

def wordMembers (options : Options) : CharSet :=
  if options.unicode then Unicode.word else Unicode.asciiWord

/-! ### Named classes -/

/-- The class of one of the letters `d`, `s`, `w`, in upper case its complement. -/
def letterClass? (options : Options) (letter : Char) : Option CharSet :=
  match letter with
  | 'd' => some (if options.unicode then Unicode.digit else Unicode.asciiDigit)
  | 's' => some (if options.unicode then Unicode.whiteSpace else Unicode.asciiSpace)
  | 'w' => some options.wordMembers
  | 'D' => options.allow (if options.unicode then Unicode.digit else Unicode.asciiDigit).complement
  | 'S' =>
    options.allow (if options.unicode then Unicode.whiteSpace else Unicode.asciiSpace).complement
  | 'W' => options.allow options.wordMembers.complement
  | _ => none

/-- The ASCII class of a name between square brackets and colons. -/
def asciiClass? : String → Option CharSet
  | "alnum" => some (.ofHex ["30-39 41-5a 61-7a"])
  | "alpha" => some (.ofHex ["41-5a 61-7a"])
  | "ascii" => some (.ofHex ["0-7f"])
  | "blank" => some (.ofHex ["9 20"])
  | "cntrl" => some (.ofHex ["0-1f 7f"])
  | "digit" => some (.ofHex ["30-39"])
  | "graph" => some (.ofHex ["21-7e"])
  | "lower" => some (.ofHex ["61-7a"])
  | "print" => some (.ofHex ["20-7e"])
  | "punct" => some (.ofHex ["21-2f 3a-40 5b-60 7b-7e"])
  | "space" => some (.ofHex ["9-d 20"])
  | "upper" => some (.ofHex ["41-5a"])
  | "word" => some (.ofHex ["30-39 41-5a 5f 61-7a"])
  | "xdigit" => some (.ofHex ["30-39 41-46 61-66"])
  | _ => none

/-- A property name in lower case, without the marks between its words and without an `is` at its
start; `isc` keeps it. -/
def normalizeName (name : List Char) : String :=
  let (hasIs, body) :=
    match name with
    | first :: second :: rest =>
      if (first = 'i' ∨ first = 'I') ∧ (second = 's' ∨ second = 'S') then (true, rest)
      else (false, name)
    | _ => (false, name)
  let kept := body.filter fun c => c != ' ' && c != '_' && c != '-' && c.toNat < 0x80
  let lower := kept.map Char.toLower
  if hasIs ∧ lower = ['c'] then "isc" else String.ofList lower

/-- The characters of a property: a property with two values, a category or a script. -/
def namedClass? (name : List Char) : Option CharSet :=
  let name := normalizeName name
  (Unicode.property? name <|> Unicode.generalCategory? name) <|> Unicode.script? name

/-- The characters for which a property has a value. -/
def valuedClass? (property value : List Char) : Option CharSet :=
  let value := normalizeName value
  match normalizeName property with
  | "gc" | "generalcategory" => Unicode.generalCategory? value
  | "sc" | "script" => Unicode.script? value
  | "scx" | "scriptextensions" => Unicode.scriptExtensions? value
  | "age" => Unicode.age? value
  | "gcb" | "graphemeclusterbreak" => Unicode.graphemeBreak? value
  | "wb" | "wordbreak" => Unicode.wordBreak? value
  | "sb" | "sentencebreak" => Unicode.sentenceBreak? value
  | _ => none

/-- A property class, perhaps its complement; there is none without Unicode. -/
def propertyClass (options : Options) (set : CharSet) (negated : Bool) : Option CharSet :=
  if options.unicode then options.close negated set else none

/-! ### Assertions -/

def lineStart (options : Options) : Assertion :=
  if options.multiLine then .lineStart options.carriageReturn else .textStart

def lineEnd (options : Options) : Assertion :=
  if options.multiLine then .lineEnd options.carriageReturn else .textEnd

def wordEdge (options : Options) (edge : WordEdge) : Assertion := .word edge options.wordMembers

end Options

end WhenClause.Regex

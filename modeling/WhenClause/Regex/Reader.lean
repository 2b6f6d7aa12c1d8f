/-
**Reading a pattern.**

`Pattern.read?` reads the usual notation: alternatives, groups (numbered, named, or with switches),
classes, escapes, assertions, and repetitions, of which several may follow one another. There are no
assertions about what stands before or behind and no references to groups. A pattern is refused as a
whole: when it breaks the notation, when it is nested too deep, or when it would take up too much
room.
-/

import WhenClause.Number.Decimal
import WhenClause.Regex.Class
import WhenClause.Regex.Room

namespace WhenClause.Regex

/-! ### Parts -/

/-- A part of a pattern, with its shape and the depth of its nesting. -/
structure Part where
  pattern : Pattern
  shape : Shape
  depth : Nat

/-- An element of a sequence: a part, or a group that only sets switches. -/
inductive Element where
  | part (part : Part)
  | switches

/-- The greatest depth of nesting. -/
def maxDepth : Nat := 250

namespace Part

def ofSet (set : CharSet) (depth : Nat) : Part := ⟨.set set, .ofSet set, depth⟩

def ofCharacter (options : Options) (c : Char) : Part := ofSet (options.literal c) 0

def ofAssertion (condition : Assertion) : Part := ⟨.assertion condition, .condition condition, 0⟩

def ofPrimitive (options : Options) : Primitive → Part
  | .character c => ofCharacter options c
  | .members set => ofSet set 0
  | .assertion condition => ofAssertion condition

/-- A group around a part, with the number that it has if it is one that is remembered. -/
def grouped (part : Part) (number : Option Nat) : Part :=
  let shape :=
    match number with
    | some number => .group number part.shape
    | none => part.shape
  ⟨part.pattern, shape, part.depth + 1⟩

end Part

/-- The elements of a sequence, the last one first, as one part. -/
def sequencePart (elements : List Element) : Part :=
  let parts := elements.reverse.filterMap fun element =>
    match element with
    | .part part => some part
    | .switches => none
  let depth := parts.foldl (fun depth part => max depth part.depth) 0
  { pattern := .sequenceAll (parts.map (·.pattern))
    shape := .sequence (parts.map (·.shape))
    depth := if 2 ≤ elements.length then depth + 1 else depth }

/-- The alternatives of a group, the last one first, as one part. -/
def choicePart (alternatives : List Part) : Part :=
  match alternatives with
  | [part] => part
  | _ =>
    let parts := alternatives.reverse
    { pattern := .choiceAll (parts.map (·.pattern))
      shape := .choice (parts.map (·.shape))
      depth := parts.foldl (fun depth part => max depth part.depth) 0 + 1 }

/-! ### Repetitions -/

/-- How often a part is repeated, and whether fewer copies are tried first. -/
structure Repetition where
  least : Nat
  most : Option Nat
  isLazy : Bool

/-- A number in front of a text, with the blanks behind it. -/
def readCount (options : Options) (text : List Char) : Option (Nat × List Char) :=
  let text := text.dropWhile isBlank
  let (digits, rest) := takeSpaced options Char.isDigit text.length text
  let count := digitsValue digits
  if digits.isEmpty ∨ Nat.pow 2 32 ≤ count then none else some (count, rest.dropWhile isBlank)

/-- The counts of a repetition behind its opening brace, up to the closing one. -/
def readCounts (options : Options) (text : List Char) :
    Option ((Nat × Option Nat) × List Char) := do
  let (least, rest) ← readCount options (options.skip text)
  match rest with
  | '\x7d' :: rest => return ((least, some least), rest)
  | ',' :: rest =>
    match options.skip rest with
    | '\x7d' :: rest => return ((least, none), rest)
    | rest =>
      let (most, rest) ← readCount options rest
      match rest with
      | '\x7d' :: rest => if least ≤ most then return ((least, some most), rest) else none
      | _ => none
  | _ => none

/-- A repetition with given counts; a `?` behind it turns the order around in which numbers of
copies are tried. -/
def readOrder (options : Options) (least : Nat) (most : Option Nat) :
    List Char → Repetition × List Char
  | '?' :: rest => (⟨least, most, !options.lazyFirst⟩, rest)
  | text => (⟨least, most, options.lazyFirst⟩, text)

/-- The repetition that a text begins with, if it begins with the mark of one: `none` within where
it is malformed. Spacing may stand before the `?` behind a brace, and nowhere else. -/
def readRepetition? (options : Options) (text : List Char) :
    Option (Option (Repetition × List Char)) :=
  match text with
  | '?' :: rest => some (some (readOrder options 0 (some 1) rest))
  | '*' :: rest => some (some (readOrder options 0 none rest))
  | '+' :: rest => some (some (readOrder options 1 none rest))
  | '\x7b' :: rest =>
    some <| (readCounts options rest).map fun ((least, most), rest) =>
      readOrder options least most (options.skip rest)
  | _ => none

/-- The sequence with its last element repeated. Without a last element, or behind switches, there
is nothing to repeat. -/
def repeatLast (repetition : Repetition) : List Element → Option (List Element)
  | .part part :: before =>
    let ⟨least, most, isLazy⟩ := repetition
    some (.part
      { pattern := .repetition part.pattern least most
        shape := part.shape.repeated least most isLazy
        depth := part.depth + 1 } :: before)
  | _ => none

/-! ### Groups -/

/-- Letters with which a group name can begin. -/
def isNameStart (c : Char) : Bool := c == '_' || Unicode.alphabetic.contains c

def isNameCharacter (c : Char) : Bool :=
  isNameStart c || c == '.' || c == '[' || c == ']' || Unicode.number.contains c

/-- The name of a group, which is not one of `names`, and what follows its `>`. -/
def readName (names : List (List Char)) (text : List Char) :
    Option (List Char × List Char) :=
  let name := text.takeWhile isNameCharacter
  match text.drop name.length with
  | '>' :: rest =>
    if name.head?.any isNameStart ∧ !names.contains name then some (name, rest) else none
  | _ => none

/-- The options behind the switches `(?…` of a group, the character that ends them, and the rest.
`seen` holds the letters read, `-` among them. -/
def readSwitches (options : Options) (seen : List Char) :
    List Char → Option (Options × Bool × List Char)
  | [] => none
  | c :: rest =>
    if c = ':' ∨ c = ')' then
      if seen.head? = some '-' ∨ (c = ')' ∧ seen.isEmpty) then none
      else some (options, c == ':', rest)
    else if seen.contains c then none
    else if c = '-' then readSwitches options (c :: seen) rest
    else
      match options.set? c (!seen.contains '-') with
      | none => none
      | some options => readSwitches options (c :: seen) rest

/-- How a group begins: it only sets switches, or it has contents, which are remembered under a
name, under a number alone, or not at all. -/
inductive GroupStart where
  | switches (options : Options)
  | named (name : List Char)
  | numbered
  | plain (options : Options)

/-- The start of a group behind its parenthesis. -/
def readGroupStart (options : Options) (names : List (List Char)) (text : List Char) :
    Option (GroupStart × List Char) :=
  match options.skip text with
  | '?' :: '=' :: _ => none
  | '?' :: '!' :: _ => none
  | '?' :: '<' :: '=' :: _ => none
  | '?' :: '<' :: '!' :: _ => none
  | '?' :: 'P' :: '<' :: rest =>
    (readName names rest).map fun (name, rest) => (.named name, rest)
  | '?' :: '<' :: rest => (readName names rest).map fun (name, rest) => (.named name, rest)
  | '?' :: rest =>
    (readSwitches options [] rest).map fun (inner, isGroup, rest) =>
      (if isGroup then .plain inner else .switches inner, rest)
  | rest => some (.numbered, rest)

/-! ### The whole notation -/

/-- The groups so far that are remembered: their number, and the names that some of them have. -/
structure Groups where
  count : Nat := 0
  names : List (List Char) := []

/-- A place in a pattern: the options in force, the groups before it, the elements of the sequence
it stands in and the alternatives before that sequence, both the last one first. -/
structure Reading where
  options : Options
  groups : Groups := {}
  elements : List Element := []
  alternatives : List Part := []

namespace Reading

def push (part : Part) (reading : Reading) : Reading :=
  { reading with elements := .part part :: reading.elements }

/-- All alternatives up to here as one part. -/
def finish (reading : Reading) : Part :=
  choicePart (sequencePart reading.elements :: reading.alternatives)

/-- The beginning of the contents of a group: the options and groups there, and the number under
which the group is remembered. -/
def enter (reading : Reading) : GroupStart → Reading × Option Nat
  | .named name =>
    let number := reading.groups.count + 1
    ({ options := reading.options, groups := ⟨number, name :: reading.groups.names⟩ }, some number)
  | .numbered =>
    let number := reading.groups.count + 1
    ({ options := reading.options, groups := ⟨number, reading.groups.names⟩ }, some number)
  | .switches options => ({ options := options, groups := reading.groups }, none)
  | .plain options => ({ options := options, groups := reading.groups }, none)

end Reading

/-- A part of one or more characters that is no group and no repetition. -/
def readPrimitive (options : Options) (size : Nat) (c : Char) (rest : List Char) :
    Option (Part × List Char) :=
  match c with
  | '[' =>
    (readClass options size rest).map fun ((set, depth), rest) => (.ofSet set depth, rest)
  | '.' => options.dot.map fun set => (.ofSet set 0, rest)
  | '^' => some (.ofAssertion options.lineStart, rest)
  | '$' => some (.ofAssertion options.lineEnd, rest)
  | '\\' =>
    match rest with
    | [] => none
    | c :: rest =>
      (readEscape options c rest).map fun (primitive, rest) =>
        (.ofPrimitive options primitive, rest)
  | _ => some (.ofCharacter options c, rest)

/-- The alternatives up to the end of the text or of a group, whose closing parenthesis stays in the
rest, and the groups so far. `size` bounds the steps. -/
def readChoice : Nat → Reading → List Char → Option (Part × Groups × List Char)
  | 0, _, _ => none
  | size + 1, reading, text =>
    match reading.options.skip text with
    | [] => some (reading.finish, reading.groups, [])
    | ')' :: rest => some (reading.finish, reading.groups, ')' :: rest)
    | '|' :: rest =>
      let alternatives := sequencePart reading.elements :: reading.alternatives
      readChoice size { reading with elements := [], alternatives := alternatives } rest
    | '(' :: rest =>
      match readGroupStart reading.options reading.groups.names rest with
      | none => none
      | some (.switches options, rest) =>
        let elements := .switches :: reading.elements
        readChoice size { reading with options := options, elements := elements } rest
      | some (start, rest) =>
        let (inner, number) := reading.enter start
        match readChoice size inner rest with
        | some (part, groups, ')' :: rest) =>
          readChoice size ({ reading with groups := groups }.push (part.grouped number)) rest
        | _ => none
    | c :: rest =>
      match readRepetition? reading.options (c :: rest) with
      | some none => none
      | some (some (repetition, rest)) =>
        match repeatLast repetition reading.elements with
        | none => none
        | some elements => readChoice size { reading with elements := elements } rest
      | none =>
        match readPrimitive reading.options (size + 1) c rest with
        | none => none
        | some (part, rest) => readChoice size (reading.push part) rest

/-- The pattern that a whole text writes under options. -/
def Pattern.read? (options : Options) (text : List Char) : Option Pattern :=
  match readChoice (text.length + 1) { options := options } text with
  | some (part, _, []) =>
    if part.depth ≤ maxDepth ∧ part.shape.fits then some part.pattern else none
  | _ => none

end WhenClause.Regex

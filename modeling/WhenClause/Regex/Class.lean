/-
**Bracketed classes.**

`readClass` reads a class behind its opening bracket: characters, ranges, escapes, ASCII classes
`[:name:]`, classes within classes, and the operators `&&`, `--` and `~~`, which all bind alike and
to the left. Case is folded before an operator and before a complement is taken.
-/

import WhenClause.Regex.Escape

namespace WhenClause.Regex

/-- An operator between parts of a class. -/
inductive ClassOperator where
  | intersection
  | difference
  | symmetricDifference

def ClassOperator.apply : ClassOperator → CharSet → CharSet → CharSet
  | .intersection => CharSet.intersect
  | .difference => CharSet.difference
  | .symmetricDifference => CharSet.symmetricDifference

/-- What stands before an operator: its value and the depth of its nesting. -/
structure Operand where
  members : CharSet
  depth : Nat
  operator : ClassOperator

/-- A class being read: what stands before the last operator, and of the items behind it their
ranges, their number and the greatest depth of one. -/
structure OpenClass where
  left : Option Operand := none
  ranges : List (Nat × Nat) := []
  items : Nat := 0
  deepest : Nat := 0

namespace OpenClass

/-- The class with one more item. -/
def add (set : CharSet) (depth : Nat) (reading : OpenClass) : OpenClass :=
  { reading with
    ranges := set.ranges ++ reading.ranges
    items := reading.items + 1
    deepest := max reading.deepest depth }

/-- The value of all that has been read. -/
def value (options : Options) (reading : OpenClass) : CharSet :=
  let right := CharSet.ofRanges reading.ranges
  match reading.left with
  | none => right
  | some left => left.operator.apply (options.fold left.members) (options.fold right)

/-- The depth of all that has been read: several items are one level, an operator is another. -/
def depth (reading : OpenClass) : Nat :=
  let right := if 2 ≤ reading.items then reading.deepest + 1 else reading.deepest
  match reading.left with
  | none => right
  | some left => max left.depth right + 1

/-- The class with an operator behind all that has been read. -/
def operate (options : Options) (operator : ClassOperator) (reading : OpenClass) : OpenClass :=
  { left := some ⟨reading.value options, reading.depth, operator⟩ }

end OpenClass

/-! ### Items -/

/-- The ASCII class behind an opening bracket within a class, if the text has this form: whether it
is a complement, its members, and the rest. -/
def readAsciiClass (text : List Char) : Option (Bool × CharSet × List Char) :=
  match text with
  | ':' :: rest =>
    let (negated, rest) :=
      match rest with
      | '^' :: rest => (true, rest)
      | rest => (false, rest)
    let name := rest.takeWhile (· != ':')
    match rest.drop name.length with
    | ':' :: ']' :: rest =>
      (Options.asciiClass? (String.ofList name)).map fun set => (negated, set, rest)
    | _ => none
  | _ => none

/-- One member of a class: a character as it stands, or an escape. Without Unicode, a character is
an ASCII one. -/
def readMember (options : Options) (text : List Char) : Option (Primitive × List Char) := do
  let (member, rest) ←
    match text with
    | [] => none
    | '\\' :: c :: rest => readEscape options c rest
    | '\\' :: [] => none
    | c :: rest => some (.character c, rest)
  match member with
  | .character c => if options.unicode ∨ c.toNat < 0x80 then return (member, rest) else none
  | .members _ => return (member, rest)
  | .assertion _ => none

/-- The first character that is neither blank nor the first `#`. A comment does not count: whatever
follows the blanks behind its `#` is that character. -/
def firstInked (inComment : Bool) : List Char → Option Char
  | [] => none
  | c :: rest =>
    if isBlank c then firstInked inComment rest
    else if c = '#' ∧ !inComment then firstInked true rest
    else some c

/-- The character that tells whether the hyphen in front of a text makes a range. -/
def rangeMark? (options : Options) (text : List Char) : Option Char :=
  if options.spacing then firstInked false text <|> text.head? else text.head?

/-- A member of a class or a range of them. A `-` before the closing bracket or before another `-`
stands for no range. -/
def readRange (options : Options) (text : List Char) : Option (CharSet × List Char) := do
  let (first, rest) ← readMember options text
  let rest := options.skip rest
  let alone : CharSet :=
    match first with
    | .character c => .singleton c
    | .members set => set
    | .assertion _ => .empty
  match rest with
  | [] => none
  | '-' :: behind =>
    let mark := rangeMark? options behind
    if mark = some ']' ∨ mark = some '-' then return (alone, rest)
    else
      let (last, rest) ← readMember options (options.skip behind)
      match first, last with
      | .character first, .character last =>
        if first ≤ last then return (⟨[(first.toNat, last.toNat)]⟩, rest) else none
      | _, _ => none
  | _ => return (alone, rest)

/-! ### Classes -/

/-- The hyphens in front of a text, which stand for themselves at the start of a class. `size`
bounds their number. -/
def takeHyphens (options : Options) : Nat → OpenClass → List Char → OpenClass × List Char
  | size + 1, reading, '-' :: rest =>
    takeHyphens options size (reading.add (.singleton '-') 0) (options.skip rest)
  | _, reading, text => (reading, text)

/-- A class behind its opening bracket: whether it is a complement, what stands for itself at its
start, and the rest. -/
def openClass (options : Options) (text : List Char) : Bool × OpenClass × List Char :=
  let text := options.skip text
  let (negated, text) :=
    match text with
    | '^' :: rest => (true, options.skip rest)
    | text => (false, text)
  let (reading, text) := takeHyphens options text.length {} text
  match reading.items, text with
  | 0, ']' :: rest => (negated, reading.add (.singleton ']') 0, options.skip rest)
  | _, text => (negated, reading, text)

/-- The rest of a class up to its closing bracket: its members, and one more than the depth of what
it holds. `size` bounds the steps. -/
def readClassFrom (options : Options) (negated : Bool) :
    Nat → OpenClass → List Char → Option ((CharSet × Nat) × List Char)
  | 0, _, _ => none
  | size + 1, reading, text =>
    match options.skip text with
    | [] => none
    | '[' :: rest =>
      match readAsciiClass rest with
      | some (innerNegated, set, rest) => do
        let set ← options.close innerNegated set
        readClassFrom options negated size (reading.add set 0) rest
      | none => do
        let (innerNegated, inner, rest) := openClass options rest
        let ((set, depth), rest) ← readClassFrom options innerNegated size inner rest
        readClassFrom options negated size (reading.add set depth) rest
    | ']' :: rest =>
      (options.close negated (reading.value options)).map fun set =>
        ((set, reading.depth + 1), rest)
    | '&' :: '&' :: rest =>
      readClassFrom options negated size (reading.operate options .intersection) rest
    | '-' :: '-' :: rest =>
      readClassFrom options negated size (reading.operate options .difference) rest
    | '~' :: '~' :: rest =>
      readClassFrom options negated size (reading.operate options .symmetricDifference) rest
    | text => do
      let (set, rest) ← readRange options text
      readClassFrom options negated size (reading.add set 0) rest

/-- A class behind its opening bracket: its members with the depth of its nesting. -/
def readClass (options : Options) (size : Nat) (text : List Char) :
    Option ((CharSet × Nat) × List Char) :=
  let (negated, reading, rest) := openClass options text
  readClassFrom options negated size reading rest

end WhenClause.Regex

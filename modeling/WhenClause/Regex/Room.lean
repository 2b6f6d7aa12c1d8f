/-
**Room taken by a pattern.**

A pattern is refused if the automaton built for it, or the one that reads texts backwards, takes up
too much room. A pattern that is a list of texts needs no automaton. Otherwise both are built state by
state; a state takes 32 bytes, each edge of a state that has several ranges 8, and each branch of a
state that only branches 4. `roomIn` adds these up for a shape, and `Shape.fits` compares the sums
with `maxRoom`.

A set of characters beyond ASCII becomes states over bytes, of which equal ones are shared as far as
a table of recent states remembers them. The table has a fixed number of places, and a state goes to
the place that a checksum of its edges names.
-/

import WhenClause.Regex.Opening
import Std.Data.HashMap

namespace WhenClause.Regex

/-- The greatest room, in bytes. -/
def maxRoom : Nat := 10 * Nat.pow 2 20

/-- The states of an automaton so far, and the bytes that they take beyond their own size. -/
structure Tally where
  states : Nat := 0
  extra : Nat := 0
  deriving DecidableEq, Repr

namespace Tally

def room (tally : Tally) : Nat := 32 * tally.states + tally.extra

def exceeds (tally : Tally) : Bool := maxRoom < tally.room

/-- Some states more, and some bytes beyond their own size. -/
def add (states extra : Nat) (tally : Tally) : Tally :=
  ⟨tally.states + states, tally.extra + extra⟩

end Tally

/-! ### Sets of characters -/

/-- One step of a checksum (FNV-1a). -/
def mix (sum : UInt64) (value : Nat) : UInt64 := (sum ^^^ value.toUInt64) * 1099511628211

/-- The place of a list of numbers among a number of places. -/
def place (places : Nat) (values : List Nat) : Nat :=
  (values.foldl mix 14695981039346656037).toNat % places

/-- An edge of a state: the range of bytes that it takes, and the state behind it. -/
structure Edge where
  first : Nat
  last : Nat
  next : Nat
  deriving DecidableEq, Repr, Inhabited

/-- A table of recent states, by their places. -/
abbrev Recent (α : Type) := Std.HashMap Nat (α × Nat)

/-- The state with given edges: one that the table knows, or a new one. -/
def stateWith (edges : List Edge) : Tally × Recent (List Edge) →
    Nat × Tally × Recent (List Edge)
  | (tally, recent) =>
    let index := place 10000 (edges.flatMap fun edge => [edge.first, edge.last, edge.next])
    match recent[index]? with
    | some (known, state) =>
      if known = edges then (state, tally, recent)
      else (tally.states, tally.add 1 (8 * edges.length),
        recent.insert index (edges, tally.states))
    | none =>
      (tally.states, tally.add 1 (8 * edges.length), recent.insert index (edges, tally.states))

/-- A state that is still open: its edges so far, and the range of an edge whose target is not yet
known. -/
structure OpenState where
  edges : List Edge := []
  pending : Option (Nat × Nat) := none
  deriving Inhabited

/-- The state with its pending edge closed. -/
def OpenState.close (next : Nat) (state : OpenState) : OpenState :=
  match state.pending with
  | none => state
  | some (first, last) => { edges := state.edges ++ [⟨first, last, next⟩] }

/-- A set being compiled: the open states on the way of the last byte sequence, the first one first,
what has been built, and the table. -/
structure Spine where
  path : List OpenState := [{}]
  tally : Tally
  recent : Recent (List Edge) := {}

namespace Spine

/-- The spine with all but its first `kept + 1` states closed; `target` is the state behind a
complete sequence. -/
def closeFrom (target kept : Nat) (spine : Spine) : Spine :=
  let (next, tally, recent) :=
    (spine.path.drop (kept + 1)).foldr (fun state (next, tally, recent) =>
      stateWith (state.close next).edges (tally, recent)) (target, spine.tally, spine.recent)
  let kept := (spine.path.take (kept + 1)).mapIdx fun index state =>
    if index = kept then state.close next else state
  ⟨kept, tally, recent⟩

/-- How many states of a path lead along the beginning of a sequence. -/
def sharedLength : List OpenState → List (Nat × Nat) → Nat
  | state :: path, range :: sequence =>
    if state.pending = some range then sharedLength path sequence + 1 else 0
  | _, _ => 0

/-- The path with a sequence behind its last state. -/
def extend : List OpenState → List (Nat × Nat) → List OpenState
  | [], sequence => sequence.map fun range => { pending := some range }
  | [state], range :: sequence =>
    { state with pending := some range } :: extend [] sequence
  | state :: path, sequence => state :: extend path sequence

/-- The spine with one more sequence of byte ranges. -/
def addSequence (target : Nat) (spine : Spine) (sequence : List (Nat × Nat)) : Spine :=
  let shared := sharedLength spine.path sequence
  let spine := spine.closeFrom target shared
  { spine with path := extend spine.path (sequence.drop shared) }

end Spine

/-- The sequences of byte ranges of a set. -/
def setSequences (members : CharSet) : List (List (Nat × Nat)) :=
  members.ranges.flatMap fun (first, last) => byteSequences first last

/-- A set read forwards: sequences that end alike share their ends. -/
def addSetForwards (members : CharSet) (tally : Tally) : Tally :=
  let target := tally.states
  let spine : Spine :=
    (setSequences members).foldl (Spine.addSequence target) { tally := tally.add 1 0 }
  let spine := spine.closeFrom target 0
  (stateWith (spine.path.headD {}).edges (spine.tally, spine.recent)).2.1

/-- One byte range of a sequence read backwards: the state reached so far, and what has been
built. -/
def addRangeBackwards : Nat × Tally × Recent Edge → Nat × Nat → Nat × Tally × Recent Edge
  | (next, tally, recent), (first, last) =>
    let edge : Edge := ⟨first, last, next⟩
    let index := place 1000 [next, first, last]
    let added :=
      (tally.states, tally.add 1 0, recent.insert index (edge, tally.states))
    match recent[index]? with
    | some (known, state) => if known = edge then (state, tally, recent) else added
    | none => added

/-- A set read backwards: sequences that begin alike share their beginnings, which are read last. -/
def addSetBackwards (members : CharSet) (tally : Tally) : Tally :=
  let target := tally.states + 1
  ((setSequences members).foldl (fun (tally, recent) sequence =>
    let (_, tally, recent) := sequence.foldl addRangeBackwards (target, tally, recent)
    (tally.add 0 4, recent)) (tally.add 2 0, (∅ : Recent Edge))).1

/-- The states of a set. -/
def addSet (backwards : Bool) (members : CharSet) (tally : Tally) : Tally :=
  if members.ranges.all fun (_, last) => last < 0x80 then
    tally.add 2 (8 * members.ranges.length)
  else if backwards then addSetBackwards members tally
  else addSetForwards members tally

/-! ### Choices between texts -/

/-- The texts of a choice cut behind each one that ends here; a second such end right behind the
first one changes nothing. -/
def cutAtEnds (texts : List (List Nat)) : List (List (List Nat)) :=
  let (done, current) := texts.foldl (fun (done, current) text =>
    if !text.isEmpty then (done, current ++ [text])
    else if current.isEmpty ∧ !done.isEmpty ∧ done.all List.isEmpty then (done, current)
    else (done ++ [current], [])) (([] : List (List (List Nat))), ([] : List (List Nat)))
  done ++ [current]

/-- The texts behind each first byte, the bytes in the order of their first use. -/
def groupByFirst (texts : List (List Nat)) : List (List (List Nat)) :=
  let firsts := texts.filterMap List.head?
  firsts.eraseDups.map fun first => texts.filterMap fun text =>
    match text with
    | [] => none
    | c :: rest => if c = first then some rest else none

/-- The states of a choice between texts, which share their beginnings. `size` bounds the lengths of
the texts. -/
def addTexts : Nat → List (List Nat) → Tally → Tally
  | 0, _, tally => tally
  | size + 1, texts, tally =>
    let pieces := cutAtEnds texts
    let tally := pieces.foldl (fun tally piece =>
      let groups := groupByFirst piece
      let tally := groups.foldl (fun tally group =>
        if group.all List.isEmpty then tally else addTexts size group tally) tally
      match groups.length with
      | 0 => tally
      | 1 => tally.add 1 4
      | count => tally.add 1 (8 * count + 4)) tally
    tally.add 1 (4 * (pieces.length - 1))

/-! ### Whole shapes -/

/-- What building a part leaves: the states so far, and whether the part ends in a state that
branches, so that the way out of it takes a branch. -/
structure Built where
  tally : Tally
  branches : Bool := false

namespace Built

/-- The way out of a part has been laid. -/
def leave (built : Built) : Tally := built.tally.add 0 (if built.branches then 4 else 0)

end Built

/-- A number of copies of a part, one after another. -/
def addCopies (build : Tally → Built) : Nat → Tally → Built
  | 0, tally => ⟨tally.add 1 0, false⟩
  | 1, tally => build tally
  | count + 2, tally =>
    let built := build tally
    if built.tally.exceeds then built else addCopies build (count + 1) built.leave

/-- A number of copies of a part behind another one, each of which may be the last. -/
def addOptional (build : Tally → Built) : Nat → Built → Built
  | 0, built => built
  | count + 1, built =>
    if built.tally.exceeds then built
    else addOptional build count (build (built.leave.add 1 8))

/-- A repetition of a part that may match the empty text, or not. -/
def addRepetition (build : Tally → Built) (matchesEmpty : Bool) (least : Nat) (most : Option Nat)
    (tally : Tally) : Built :=
  match least, most with
  | 0, some 1 => ⟨(build (tally.add 1 8)).leave.add 1 0, false⟩
  | 0, none =>
    if matchesEmpty then ⟨(build tally).leave.add 3 16, false⟩
    else ⟨(build (tally.add 1 4)).leave, true⟩
  | 1, none => ⟨(build tally).leave.add 1 4, true⟩
  | least, none =>
    ⟨(build (addCopies build (least - 1) tally).leave).leave.add 1 4, true⟩
  | least, some most =>
    let required := addCopies build least tally
    if least = most then required
    else
      let required := { required with tally := required.tally.add 1 0 }
      ⟨(addOptional build (most - least) required).leave, false⟩

/-- The texts of a choice between nothing but texts. -/
def choiceTexts? (shape : Shape) : Option (List (List Nat)) :=
  shape.choiceParts.mapM fun part =>
    match part with
    | .text characters => some (characters.flatMap (bytesOf ·.toNat))
    | _ => none

/-- Where a shape stands: by itself, as the second alternative of a choice, or as a later one. -/
inductive Standing where
  | alone
  | second
  | later

/-- A part taken into the choice that it stands in. The second alternative brings the state that
branches and the one where the alternatives meet. -/
def Built.settle (standing : Standing) (built : Built) : Built :=
  match standing with
  | .alone => built
  | .second => ⟨built.leave.add 2 8, false⟩
  | .later => ⟨built.leave.add 0 4, false⟩

/-- The states of a shape. -/
def build (backwards : Bool) : Shape → Standing → Tally → Built
  | .empty, standing, tally => Built.settle standing ⟨tally.add 1 0, false⟩
  | .text characters, standing, tally =>
    let bytes := (characters.map (byteCount ·.toNat)).sum
    Built.settle standing ⟨tally.add bytes 0, false⟩
  | .set members, standing, tally =>
    Built.settle standing ⟨addSet backwards members tally, false⟩
  | .condition _, standing, tally => Built.settle standing ⟨tally.add 1 0, false⟩
  | .repetition body least most _, standing, tally =>
    let matchesEmpty := !body.shortest.any (0 < ·)
    Built.settle standing
      (addRepetition (build backwards body .alone) matchesEmpty least most tally)
  | .group _ body, standing, tally =>
    Built.settle standing <|
      if backwards then build backwards body .alone tally
      else ⟨(build backwards body .alone (tally.add 1 0)).leave.add 1 0, false⟩
  | .both first second, standing, tally =>
    Built.settle standing <|
      if tally.exceeds then ⟨tally, false⟩
      else if backwards then
        build backwards first .alone (build backwards second .alone tally).leave
      else build backwards second .alone (build backwards first .alone tally).leave
  | .either first second, standing, tally =>
    if tally.exceeds then ⟨tally, false⟩
    else
      match standing, choiceTexts? (.either first second) with
      | .alone, some texts =>
        let texts := if backwards then texts.map List.reverse else texts
        let size := (texts.map List.length).foldl max 0 + 1
        ⟨addTexts size texts (tally.add 1 0), false⟩
      | .alone, none =>
        build backwards second .second (build backwards first .alone tally).leave
      | .second, _ =>
        build backwards second .later ((build backwards first .alone tally).leave.add 2 8)
      | .later, _ =>
        build backwards second .later ((build backwards first .alone tally).leave.add 0 4)

/-- All states of the automaton for a shape: in front of it, unless it is bound to the end of the
text that is read first, a loop that skips any byte. -/
def roomIn (backwards : Bool) (shape : Shape) : Nat :=
  let bound := if backwards then shape.endsAtEnd else shape.beginsAtStart
  let start : Tally := if bound then ⟨1, 0⟩ else ⟨3, 16⟩
  let whole :=
    if backwards then (build backwards shape .alone start).leave
    else (build backwards shape .alone (start.add 1 0)).leave.add 1 0
  (whole.add 1 0).room

/-- Whether the automata for a shape take up no more room than allowed. A list of texts to look for
needs no automaton, and neither does a choice between very many texts. -/
def Shape.fits (shape : Shape) : Bool :=
  shape.isListed || (choiceTexts? shape).any (3000 ≤ ·.length) ||
    (roomIn false shape ≤ maxRoom && roomIn true shape ≤ maxRoom)

end WhenClause.Regex

/-
**Patterns that are lists of texts.**

An `Opening` of a shape is a text that a match may begin with; it is `whole` if it is all of a match.
Where the openings of a shape are few and all of them whole, looking for a match is looking for one
of these texts, and no automaton is built. `Shape.isListed` says so. Such a shape may have parts of
any size, as long as these match nothing.

Openings are collected from left to right, the preferred ones first. There are never more than
`maxOpenings` of them, of no more than `maxOpeningBytes` bytes each.
-/

import WhenClause.Regex.Shape

namespace WhenClause.Regex

/-- The greatest number of openings. -/
def maxOpenings : Nat := 250

/-- The greatest number of bytes of an opening. -/
def maxOpeningBytes : Nat := 100

/-- The greatest number of characters of a set, and of copies in a repetition, that are followed one
by one. -/
def maxSteps : Nat := 10

/-- A text that a match may begin with, and whether it is all of the match. -/
structure Opening where
  bytes : List Nat
  whole : Bool
  deriving DecidableEq, Repr

/-- The openings of all matches; `none` where they are too many to be listed. -/
abbrev Openings := Option (List Opening)

namespace Opening

/-- The opening of the empty match. -/
def empty : Opening := ⟨[], true⟩

/-- The opening with more behind it that is not followed. -/
def unfinished (opening : Opening) : Opening := { opening with whole := false }

/-- The first bytes of an opening. -/
def cut (count : Nat) (opening : Opening) : Opening :=
  if opening.bytes.length ≤ count then opening else ⟨opening.bytes.take count, false⟩

/-- The openings that go on from a given one. -/
def followedBy (opening : Opening) (others : List Opening) : List Opening :=
  if opening.whole then others.map fun other => ⟨opening.bytes ++ other.bytes, other.whole⟩
  else [opening]

/-- An opening in front of others, taken together with the first of them if that has the same
bytes. -/
def joinTo (opening : Opening) : List Opening → List Opening
  | [] => [opening]
  | next :: rest =>
    if opening.bytes = next.bytes then ⟨next.bytes, opening.whole && next.whole⟩ :: rest
    else opening :: next :: rest

/-- Openings with neighbours of the same bytes taken together. -/
def joined (openings : List Opening) : List Opening := openings.foldr joinTo []

end Opening

/-! ### Openings of parts -/

namespace Openings

/-- The openings of a sequence of two parts. Where those of the second part are too many, those of
the first are left unfinished; but an empty one would say nothing then. -/
def followedBy (first second : Openings) : Openings := do
  let openings ← first
  match second.filter fun others => openings.length * others.length ≤ maxOpenings with
  | some others =>
    some ((Opening.joined (openings.flatMap (·.followedBy others))).map (.cut maxOpeningBytes))
  | none =>
    if openings.any (·.bytes.isEmpty) then none else some (openings.map Opening.unfinished)

/-- The openings of a sequence with one more part, which matters only if an opening is whole. -/
def extendedBy (front next : Openings) : Openings :=
  if front.any (·.any Opening.whole) then front.followedBy next else front

/-- The openings of either of two parts. Where they are too many, the first four bytes of each have
to do. -/
def besides (first second : Openings) : Openings := do
  let openings ← first
  let others ← second
  if openings.length + others.length ≤ maxOpenings then some (Opening.joined (openings ++ others))
  else
    let openings := Opening.joined (openings.map (.cut 4))
    let others := Opening.joined (others.map (.cut 4))
    if openings.length + others.length ≤ maxOpenings then some (Opening.joined (openings ++ others))
    else none

/-- The openings of a set of characters. Of a long range no more is listed than it takes to see that
it is too long. -/
def ofSet (members : CharSet) : Openings :=
  let codes := members.ranges.flatMap fun (first, last) =>
    List.range' first (min (last + 1 - first) (maxSteps + 1))
  if codes.length ≤ maxSteps then some (codes.map fun code => ⟨bytesOf code, true⟩) else none

/-- The openings of a repeated part. -/
def repeated (body : Openings) (least : Nat) (most : Option Nat) (isLazy : Bool) : Openings :=
  if least = 0 then
    let copy := if most = some 1 then body else body.map (·.map Opening.unfinished)
    let nothing : Openings := some [.empty]
    if isLazy then nothing.besides copy else copy.besides nothing
  else
    let copies := (List.replicate (min least maxSteps) body).foldl extendedBy (some [.empty])
    if most = some least ∧ least ≤ maxSteps then copies else copies.map (·.map Opening.unfinished)

end Openings

/-- What stands before a shape: nothing that matters, the parts of a sequence, or the alternatives of
a choice. -/
inductive Preceding where
  | nothing
  | parts (front : Openings)
  | alternatives (earlier : Openings)

/-- Openings together with what precedes them. -/
def Preceding.settle (own : Openings) : Preceding → Openings
  | nothing => own
  | parts front => front.extendedBy own
  | alternatives earlier => earlier.besides own

namespace Shape

/-- The openings of a shape together with what precedes it. -/
def openingsBehind : Shape → Preceding → Openings
  | empty, preceding => preceding.settle (some [.empty])
  | condition _, preceding => preceding.settle (some [.empty])
  | text characters, preceding =>
    let bytes := characters.flatMap (bytesOf ·.toNat)
    preceding.settle (some [.cut maxOpeningBytes ⟨bytes, true⟩])
  | set members, preceding => preceding.settle (.ofSet members)
  | repetition body least most isLazy, preceding =>
    preceding.settle ((body.openingsBehind .nothing).repeated least most isLazy)
  | group _ body, preceding => preceding.settle (body.openingsBehind .nothing)
  | both first second, .parts front =>
    second.openingsBehind (.parts (first.openingsBehind (.parts front)))
  | both first second, preceding =>
    let front := first.openingsBehind (.parts (some [.empty]))
    preceding.settle (second.openingsBehind (.parts front))
  | either first second, .alternatives earlier =>
    second.openingsBehind (.alternatives (first.openingsBehind (.alternatives earlier)))
  | either first second, preceding =>
    let earlier := first.openingsBehind (.alternatives (some []))
    preceding.settle (second.openingsBehind (.alternatives earlier))

/-- The openings of a shape. -/
def openings (shape : Shape) : Openings := shape.openingsBehind .nothing

end Shape

/-! ### Openings to look for -/

namespace Opening

/-- The openings without those that go on from an earlier one. -/
def shortest (openings : List Opening) : List Opening :=
  openings.foldl (fun kept opening =>
    if kept.any (·.bytes.isPrefixOf opening.bytes) then kept else kept ++ [opening]) []

/-- The bytes that all openings have in front. -/
def commonBytes : List Opening → List Nat
  | [] => []
  | first :: rest => rest.foldl (fun common opening => commonPrefix common opening.bytes) first.bytes

/-- Whether a byte that begins a character is among those that most texts are made of. -/
def isFrequent (byte : Nat) : Bool :=
  0x80 ≤ byte || "\n\r (),-./0129:_abcdefghilmnoprstuvxy|".toList.contains (Char.ofNat byte)

/-- Openings cut down step by step: to a number of bytes, as long as there are more of them than a
limit. -/
def cutDown : List (Nat × Nat) → List Opening → List Opening
  | [], openings => openings
  | (count, limit) :: steps, openings =>
    if openings.length ≤ limit then openings else cutDown steps (shortest (openings.map (cut count)))

/-- The openings to look for. A rare byte that all of them begin with is enough, and so is a long
beginning that they have in common. Many openings are cut down, but those of which each is whole only
if that makes them few and leaves none of them very short. -/
def sought (openings : List Opening) : Openings :=
  if openings.any (·.bytes.isEmpty) then none
  else
    let least := shortest openings
    let common := commonBytes least
    if 1 < openings.length ∧ common.length ≤ 3 ∧ common.head?.any (!isFrequent ·) then
      some (joined (least.map (cut 1)))
    else
      let few := least.all whole && least.length ≤ 16
      let least :=
        if 4 < common.length ∨ (1 < common.length ∧ !few) then
          joined (least.map (cut common.length))
        else least
      let fewer := cutDown [(5, 10), (4, 10), (3, 64), (2, 64), (1, 10)] least
      if least.all whole ∧ (64 < fewer.length ∨ fewer.any (·.bytes.length ≤ 2)) then some least
      else some fewer

end Opening

namespace Shape

/-- Whether a shape has neither groups nor conditions. -/
def isPlain : Shape → Bool
  | condition _ => false
  | group _ _ => false
  | repetition body _ _ _ => body.isPlain
  | both first second => first.isPlain && second.isPlain
  | either first second => first.isPlain && second.isPlain
  | _ => true

/-- Whether matches of a shape are looked for as a list of texts. -/
def isListed (shape : Shape) : Bool :=
  let sought := shape.openings.bind fun openings => Opening.sought (Opening.joined openings)
  shape.isPlain && sought.any fun openings => !openings.isEmpty && openings.all Opening.whole

/-- A part that matches nothing may be repeated any number of times. -/
example : isListed (either (repetition (set .empty) 1000 (some 1000) false) (text ['f', 'o', 'o'])) =
    true := by decide

end Shape

end WhenClause.Regex

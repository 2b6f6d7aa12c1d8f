/-
**Sets of characters.**

A `CharSet` is a list of closed ranges of code points. `CharSet.ofRanges` sorts and joins them, the
other operations keep them sorted and apart. `CharSet.ofHex` reads the notation of the tables:
ranges such as `41-5a` and single code points, in hexadecimal, divided by spaces.
-/

namespace WhenClause

/-- A set of code points, as ranges in increasing order that do not touch. -/
structure CharSet where
  ranges : List (Nat × Nat)
  deriving DecidableEq, Repr, Inhabited

namespace CharSet

/-- The greatest code point. -/
def maxCode : Nat := 0x10ffff

def empty : CharSet := ⟨[]⟩

def full : CharSet := ⟨[(0, maxCode)]⟩

def hasCode (set : CharSet) (code : Nat) : Bool :=
  set.ranges.any fun (first, last) => first ≤ code && code ≤ last

def contains (set : CharSet) (c : Char) : Bool := set.hasCode c.toNat

/-! ### Building -/

/-- Sorted ranges joined where they touch, behind the range `current`. -/
def join (current : Nat × Nat) : List (Nat × Nat) → List (Nat × Nat)
  | [] => [current]
  | (first, last) :: rest =>
    if first ≤ current.2 + 1 then join (current.1, max current.2 last) rest
    else current :: join (first, last) rest

/-- The union of ranges in any order. -/
def ofRanges (ranges : List (Nat × Nat)) : CharSet :=
  match ranges.mergeSort (fun left right => left.1 ≤ right.1) with
  | [] => empty
  | range :: rest => ⟨join range rest⟩

def singleton (c : Char) : CharSet := ⟨[(c.toNat, c.toNat)]⟩

/-! ### Operations -/

def union (left right : CharSet) : CharSet := ofRanges (left.ranges ++ right.ranges)

/-- What lies between sorted ranges, from `next` on. -/
def gaps (next : Nat) : List (Nat × Nat) → List (Nat × Nat)
  | [] => if next ≤ maxCode then [(next, maxCode)] else []
  | (first, last) :: rest =>
    if next < first then (next, first - 1) :: gaps (last + 1) rest else gaps (last + 1) rest

def complement (set : CharSet) : CharSet := ⟨gaps 0 set.ranges⟩

def intersect (left right : CharSet) : CharSet :=
  (left.complement.union right.complement).complement

def difference (left right : CharSet) : CharSet := left.intersect right.complement

def symmetricDifference (left right : CharSet) : CharSet :=
  (left.difference right).union (right.difference left)

def unionAll (sets : List CharSet) : CharSet := ofRanges (sets.flatMap (·.ranges))

/-! ### Tables -/

/-- One character of the table notation taken into a range: the ranges so far, the last one first,
the start of the open range, and the number being read. -/
def hexStep : List (Nat × Nat) × Option Nat × Nat → Char → List (Nat × Nat) × Option Nat × Nat
  | (ranges, first, value), c =>
    if c = ' ' then ((first.getD value, value) :: ranges, none, 0)
    else if c = '-' then (ranges, some value, 0)
    else
      let digit := if c.isDigit then c.toNat - '0'.toNat else c.toNat - 'a'.toNat + 10
      (ranges, first, value * 16 + digit)

/-- The ranges of one line of a table. -/
def lineRanges (line : String) : List (Nat × Nat) :=
  ((line.push ' ').toList.foldl hexStep ([], none, 0)).1.reverse

/-- The set that the lines of a table write. -/
def ofHex (lines : List String) : CharSet := ofRanges (lines.flatMap lineRanges)

end CharSet

end WhenClause

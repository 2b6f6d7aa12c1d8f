/-
**Blank characters.**

`isBlank` is the Unicode property White_Space: 25 characters. `trimBlanks` drops them from both ends
of a text. The grammar skips fewer: `isGap` holds of the space, the tab, and the two line-end
characters only.
-/

namespace WhenClause

/-- The property White_Space. -/
def isBlank (c : Char) : Bool :=
  let code := c.toNat
  (0x9 ≤ code && code ≤ 0xd) || code == 0x20 || code == 0x85 || code == 0xa0 || code == 0x1680 ||
    (0x2000 ≤ code && code ≤ 0x200a) || code == 0x2028 || code == 0x2029 || code == 0x202f ||
    code == 0x205f || code == 0x3000

/-- The characters allowed between the tokens of an expression. -/
def isGap (c : Char) : Bool := c == ' ' || c == '\t' || c == '\r' || c == '\n'

/-- The text without the blanks at its ends. -/
def trimBlanks (text : List Char) : List Char :=
  ((text.dropWhile isBlank).reverse.dropWhile isBlank).reverse

/-- Every gap character is blank. -/
theorem isBlank_of_isGap {c : Char} (gap : isGap c) : isBlank c := by
  simp only [isGap, Bool.or_eq_true, beq_iff_eq] at gap
  rcases gap with ((rfl | rfl) | rfl) | rfl <;> decide

example : isBlank '\u3000' ∧ !isBlank '\u200b' ∧ !isGap '\x0c' := by decide

end WhenClause

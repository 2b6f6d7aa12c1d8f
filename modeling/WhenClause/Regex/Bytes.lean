/-
**Characters as bytes.**

A character is written in one to four bytes (UTF-8). `byteSequences` cuts a range of characters into
sequences of byte ranges: each sequence stands for all characters whose bytes lie in its ranges one
by one, and the sequences come in the order of the characters.
-/

namespace WhenClause.Regex

/-- The number of bytes of the character with a code. -/
def byteCount (code : Nat) : Nat :=
  if code < 0x80 then 1 else if code < 0x800 then 2 else if code < 0x10000 then 3 else 4

/-- The bytes of the character with a code, the first one first. -/
def bytesOf (code : Nat) : List Nat :=
  let tail (shift : Nat) : Nat := 0x80 + code / Nat.pow 2 shift % 64
  match byteCount code with
  | 1 => [code]
  | 2 => [0xc0 + code / Nat.pow 2 6, tail 0]
  | 3 => [0xe0 + code / Nat.pow 2 12, tail 6, tail 0]
  | _ => [0xf0 + code / Nat.pow 2 18, tail 12, tail 6, tail 0]

/-- Where a range of characters has to be cut in front of: at the surrogates, between characters of
different lengths, and where its ends do not fill the blocks of 64, 4096 or 262144 characters that
share their first bytes. A range without such a place is one sequence. -/
def cutBefore? (first last : Nat) : Option Nat :=
  let lengths := [0x80, 0x800, 0x10000].find? fun bound => first < bound && bound ≤ last
  let blocks := [64, 4096, 262144].findSome? fun block =>
    if first / block = last / block then none
    else if first % block ≠ 0 then some ((first / block + 1) * block)
    else if last % block ≠ block - 1 then some (last / block * block)
    else none
  if last < 0x80 then none else lengths <|> blocks

/-- The sequences of a range without surrogates. A range is cut twice at each length and block at
most, which `size` allows for. -/
def sequencesWithin : Nat → Nat → Nat → List (List (Nat × Nat))
  | 0, _, _ => []
  | size + 1, first, last =>
    match cutBefore? first last with
    | none => [(bytesOf first).zip (bytesOf last)]
    | some cut => sequencesWithin size first (cut - 1) ++ sequencesWithin size cut last

/-- The sequences of byte ranges for a range of characters. -/
def byteSequences (first last : Nat) : List (List (Nat × Nat)) :=
  let part (first last : Nat) := if first ≤ last then sequencesWithin 16 first last else []
  if first < 0xe000 ∧ 0xd7ff < last then part first 0xd7ff ++ part 0xe000 last
  else part first last

example : byteSequences 0x61 0x7a = [[(0x61, 0x7a)]] := by decide

example :
    byteSequences 0x80 0x10ffff =
      [[(0xc2, 0xdf), (0x80, 0xbf)], [(0xe0, 0xe0), (0xa0, 0xbf), (0x80, 0xbf)],
       [(0xe1, 0xec), (0x80, 0xbf), (0x80, 0xbf)], [(0xed, 0xed), (0x80, 0x9f), (0x80, 0xbf)],
       [(0xee, 0xef), (0x80, 0xbf), (0x80, 0xbf)],
       [(0xf0, 0xf0), (0x90, 0xbf), (0x80, 0xbf), (0x80, 0xbf)],
       [(0xf1, 0xf3), (0x80, 0xbf), (0x80, 0xbf), (0x80, 0xbf)],
       [(0xf4, 0xf4), (0x80, 0x8f), (0x80, 0xbf), (0x80, 0xbf)]] := by decide +kernel

end WhenClause.Regex

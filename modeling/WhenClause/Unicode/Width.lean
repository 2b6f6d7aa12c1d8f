/-
**Width of text in columns.**

Most characters take one column; `wide` ones take two, and `zeroWidth` ones none. Some characters
count otherwise next to each other, so a text is read from its end, and `Ahead` is what the text
behind a character begins with, as far as that bears on the character:

* a variation selector shows an emoji as text, in one column, or as a picture, in two;
* pictures tied by joiners, tags and skin tones count as one picture, and flag letters as pairs;
* the letters of a ligature count as one letter.

`textWidth` is the sum of what `Ahead.step` gives for each character.
-/

import WhenClause.Unicode.Segment

namespace WhenClause.Unicode

/-! ### Classes of width -/

/-- Characters of two columns. -/
def wide : CharSet :=
  .ofHex
    ["1100-115f 17a4 231a-231b 2329-232a 23e9-23ec 23f0 23f3 25fd-25fe 2614-2615 2630-2637",
     "2648-2653 267f 268a-268f 2693 26a1 26aa-26ab 26bd-26be 26c4-26c5 26ce 26d4 26ea 26f2-26f3",
     "26f5 26fa 26fd 2705 270a-270b 2728 274c 274e 2753-2755 2757 2795-2797 27b0 27bf 2b1b-2b1c",
     "2b50 2b55 2e80-2e99 2e9b-2ef3 2f00-2fd5 2ff0-3029 3030-303e 3041-3096 309b-30ff 3105-312f",
     "3131-3163 3165-318e 3190-31e5 31ef-321e 3220-3247 3250-a48c a490-a4c6 a960-a97c ac00-d7a3",
     "f900-faff fe10-fe19 fe30-fe52 fe54-fe66 fe68-fe6b ff01-ff60 ffe0-ffe6 16fe0-16fe3",
     "16ff0-16ff6 17000-18cd5 18cff-18d1e 18d80-18df2 1aff0-1aff3 1aff5-1affb 1affd-1affe",
     "1b000-1b122 1b132 1b150-1b152 1b155 1b164-1b167 1b170-1b2fb 1d300-1d356 1d360-1d376 1f004",
     "1f0cf 1f18e 1f191-1f19a 1f200-1f202 1f210-1f23b 1f240-1f248 1f250-1f251 1f260-1f265",
     "1f300-1f320 1f32d-1f335 1f337-1f37c 1f37e-1f393 1f3a0-1f3ca 1f3cf-1f3d3 1f3e0-1f3f0 1f3f4",
     "1f3f8-1f43e 1f440 1f442-1f4fc 1f4ff-1f53d 1f54b-1f54e 1f550-1f567 1f57a 1f595-1f596 1f5a4",
     "1f5fb-1f64f 1f680-1f6c5 1f6cc 1f6d0-1f6d2 1f6d5-1f6d8 1f6dc-1f6df 1f6eb-1f6ec 1f6f4-1f6fc",
     "1f7e0-1f7eb 1f7f0 1f90c-1f93a 1f93c-1f945 1f947-1f9ff 1fa70-1fa7c 1fa80-1fa8a 1fa8e-1fac6",
     "1fac8 1facd-1fadc 1fadf-1faea 1faef-1faf8 20000-2fffd 30000-3fffd"]

/-- Marks that take no column by themselves, though no other property says so. -/
def weightless : CharSet :=
  .ofHex
    ["605 70f 890-891 8e2 cc0 cc7-cc8 cca-ccb 1160-11ff 1acf-1add 1ae0-1aeb 1b3b 1b3d 1b43 a8fa",
     "d7b0-d7c6 d7cb-d7fb 10ecb 10efa-10efb 11b60 11b62-11b64 11b66 1e6e3 1e6e6 1e6ee-1e6ef 1e6f5"]

/-- Characters that take up columns, though they fill a place or belong to the one before. -/
def filling : CharSet := .ofHex ["115f 2d7f ff9e-ff9f"]

/-- Characters of no column. -/
def zeroWidth : CharSet :=
  (CharSet.unionAll
    [defaultIgnorable, graphemeExtend, prepending.difference prependedConcatenationMark,
     weightless]).difference filling

/-! ### Styles -/

/-- How a variation selector asks for the character before it to be shown. -/
inductive Style where
  | none
  | text
  | picture
  deriving DecidableEq, Repr

/-- Pictures beyond the basic plane that can be shown as text as well. -/
def textualPicture : CharSet :=
  .ofHex
    ["1f004 1f21a 1f22f 1f30d-1f30f 1f315 1f31c 1f378 1f393 1f3a7 1f3ac-1f3ae 1f3c2 1f3c4 1f3c6",
     "1f3ca 1f3e0 1f3ed 1f408 1f415 1f41f 1f426 1f442 1f446-1f449 1f44d-1f44e 1f453 1f46a 1f47d",
     "1f4a3 1f4b0 1f4b3 1f4bb 1f4bf 1f4cb 1f4da 1f4df 1f4e4-1f4e6 1f4ea-1f4ed 1f4f7 1f4f9-1f4fb",
     "1f508 1f50d 1f512-1f513 1f550-1f567 1f610 1f687 1f68d 1f691 1f694 1f698 1f6ad 1f6b2",
     "1f6b9-1f6ba 1f6bc"]

/-- The emoji whose style a variation selector decides. -/
def styleable : CharSet :=
  .unionAll
    [emoji.difference emojiPresentation, emoji.intersect (.ofHex ["0-ffff"]), textualPicture]

/-- The emoji that are narrow as text: all that are pictures by themselves, but for the squared
ideographs. -/
def narrowedByText : CharSet :=
  (styleable.intersect emojiPresentation).difference (.ofHex ["1f200-1f2ff"])

/-! ### Ligatures -/

/-- The last letter of a ligature, or its last letters. -/
inductive LigatureEnd where
  | alef
  | lamed
  | buginese
  | bugineseVowel
  | tifinagh
  | joinedTifinagh
  | lisuTone
  | orkhon
  | khmer
  deriving DecidableEq, Repr

/-- Arabic letters that end a ligature with a lam. -/
def alef : CharSet := .ofHex ["622-623 625 627 671-673 675 773-774 870-882"]

/-- Arabic letters that begin a ligature with an alef. -/
def lam : CharSet := .ofHex ["644 6b5-6b8 76a 8a6 8c7"]

/-- Khmer letters that can stand below another one. -/
def khmerSubscript : CharSet :=
  .ofHex
    ["1780-1782 1784-1787 1789-178c 178e-1793 1795-1798 179b-179d 17a0 17a2 17a7 17ab-17ac 17af"]

/-- Letters of the Tifinagh script that are consonants. -/
def tifinaghConsonant : CharSet := .ofHex ["2d31-2d65 2d6f"]

/-- Marks between two Arabic letters that leave the letters joined. -/
def transparent : CharSet :=
  (zeroWidth.intersect (.unionAll [nonspacingMark, enclosingMark, format])).difference
    (.ofHex ["605 890-891 8e2 180e 200c-200d 2066-2069"])

/-- Marks between the letters of other scripts that leave the letters joined. -/
def invisibleMark : CharSet := defaultIgnorable.intersect mark

/-! ### What lies ahead -/

/-- What the text behind a character begins with.

A `styled` text begins with a variation selector, and so does a `ligature` whose style is not
`none`. `joined` says of a ligature that a joiner stands before it. The other joined ones begin with
a joiner and a picture, `styled` if a variation selector stands before the joiner. `tagLetters` and
`tagDigits` count the tags between a character and a last tag in front of a joined picture. -/
inductive Ahead where
  | plain
  | lineFeed
  | styled (style : Style)
  | fullwidth
  | ligature (last : LigatureEnd) (joined : Bool) (style : Style)
  | syllable
  | longSyllable
  | picture
  | skinTone
  | flagLetter
  | flagLetters
  | joinedPicture (styled : Bool)
  | joinedKeycap (styled : Bool)
  | joinedFlagLetter
  | joinedFlag
  | joinedFlagAndLetter
  | tagLetters (count : Nat)
  | tagDigits (count : Nat)
  deriving DecidableEq, Repr

/-- The columns of a character by itself, and what a text begins with that begins with it. -/
def charWidth (c : Char) : Nat × Ahead :=
  if c = '\n' then (1, .lineFeed)
  else if c.toNat ≤ 0xa0 then (1, .plain)
  else if c = '\u05dc' then (1, .ligature .lamed false .none)
  else if alef.contains c then (1, .ligature .alef false .none)
  else if khmerSubscript.contains c then (1, .ligature .khmer false .none)
  else if c = '\u17d8' then (3, .plain)
  else if c = '\u1a10' then (1, .ligature .buginese false .none)
  else if tifinaghConsonant.contains c then (1, .ligature .tifinagh false .none)
  else if c = '\ua4fc' ∨ c = '\ua4fd' then (1, .ligature .lisuTone false .none)
  else if c = '\ufe01' then (0, .fullwidth)
  else if c.toNat = 0x10c03 then (1, .ligature .orkhon false .none)
  else if c.toNat = 0x16d67 then (1, .syllable)
  else if c.toNat = 0x16d68 then (1, .longSyllable)
  else if regionalIndicator.contains c then (1, .flagLetter)
  else if emojiModifier.contains c then (2, .skinTone)
  else if emojiPresentation.contains c then (2, .picture)
  else if zeroWidth.contains c then (0, .plain)
  else if wide.contains c then (2, .plain)
  else (1, .plain)

namespace Ahead

/-- The style that the text ahead asks for. -/
def style : Ahead → Style
  | styled style | ligature _ _ style => style
  | joinedPicture true | joinedKeycap true => .picture
  | _ => .none

/-- The text ahead behind a character that its style does not bear on. -/
def unstyled : Ahead → Ahead
  | ligature last joined _ => ligature last joined .none
  | styled _ | joinedPicture true | joinedKeycap true => plain
  | ahead => ahead

/-- A selector of the style of a picture in front of the text ahead. -/
def asPicture : Ahead → Ahead
  | ligature last joined _ => ligature last joined .picture
  | joinedPicture _ => joinedPicture true
  | joinedKeycap _ => joinedKeycap true
  | _ => styled .picture

/-- A selector of the style of text in front of the text ahead. -/
def asText : Ahead → Ahead
  | ligature last joined _ => ligature last joined .text
  | _ => styled .text

/-- A character in front of the end of a ligature, where it does not count as by itself. -/
def beforeLigature? (c : Char) : LigatureEnd → Bool → Option (Int × Ahead)
  | .alef, _ =>
    if lam.contains c then some (0, plain)
    else if transparent.contains c then some (0, ligature .alef false .none)
    else none
  | last, joined =>
    if c = '\u200d' then some (0, ligature last true .none)
    else if invisibleMark.contains c then some (0, ligature last joined .none)
    else
      match last, joined with
      | .lamed, true => if c = '\u05d0' then some (0, plain) else none
      | .khmer, _ => if c = '\u17d2' then some (-1, plain) else none
      | .buginese, true =>
        if c = '\u1a17' then some (0, ligature .bugineseVowel true .none) else none
      | .bugineseVowel, _ => if c = '\u1a15' then some (0, plain) else none
      | .tifinagh, joined =>
        if c = '\u2d7f' then some (1, ligature .joinedTifinagh true .none)
        else if joined ∧ tifinaghConsonant.contains c then some (0, plain)
        else none
      | .joinedTifinagh, _ => if tifinaghConsonant.contains c then some (-1, plain) else none
      | .lisuTone, _ => if '\ua4f8' ≤ c ∧ c ≤ '\ua4fb' then some (0, plain) else none
      | .orkhon, true => if c.toNat = 0x10c32 then some (0, plain) else none
      | _, _ => none

/-- A character in front of a joiner and a picture, where it does not count as by itself. -/
def beforeJoined? (c : Char) : Option (Int × Ahead) :=
  if c = '\u20e3' then some (0, joinedKeycap false)
  else if regionalIndicator.contains c then some (1, joinedFlagLetter)
  else if emojiModifier.contains c then some (0, skinTone)
  else if c.toNat = 0xe007f then some (0, tagLetters 0)
  else if (charWidth c).2 = picture then some (0, picture)
  else none

/-- A character in front of tags and a joined picture, where it does not count as by itself. A black
flag goes with three to six letters, or with up to four letters and three digits. -/
def beforeTags? (c : Char) (ahead : Ahead) : Option (Int × Ahead) :=
  let isLetter := 0xe0061 ≤ c.toNat ∧ c.toNat ≤ 0xe007a
  let isDigit := 0xe0030 ≤ c.toNat ∧ c.toNat ≤ 0xe0039
  let isFlag := c.toNat = 0x1f3f4
  match ahead with
  | tagLetters count =>
    if isLetter ∧ count < 6 then some (0, tagLetters (count + 1))
    else if isDigit ∧ count < 5 then some (0, tagDigits 1)
    else if isFlag ∧ 3 ≤ count then some (0, picture)
    else none
  | tagDigits count =>
    if isDigit ∧ count < 3 then some (0, tagDigits (count + 1))
    else if isFlag ∧ count = 3 then some (0, picture)
    else none
  | _ => none

/-- Whether a joiner in front ties the picture ahead to another. -/
def isJoinable : Ahead → Bool
  | picture | flagLetters | joinedFlag | joinedFlagAndLetter | skinTone => true
  | _ => false

/-- A character in front of the text ahead, where it does not count as by itself. -/
def before? (c : Char) (ahead : Ahead) : Option (Int × Ahead) :=
  if ahead.isJoinable ∧ c = '\u200d' then some (0, joinedPicture false)
  else
    match ahead with
    | ligature last joined _ => beforeLigature? c last joined
    | syllable =>
      match c.toNat with
      | 0x16d63 | 0x16d69 => some (0, plain)
      | 0x16d67 => some (0, longSyllable)
      | 0x16d68 => some (1, syllable)
      | _ => none
    | longSyllable => if c.toNat = 0x16d63 then some (0, plain) else none
    | fullwidth => if c ∈ ['\u2018', '\u2019', '\u201c', '\u201d'] then some (2, plain) else none
    | skinTone => if emojiModifierBase.contains c then some (0, picture) else none
    | flagLetter | flagLetters =>
      if regionalIndicator.contains c then some (1, flagLetters) else none
    | joinedFlagLetter | joinedFlagAndLetter =>
      if regionalIndicator.contains c then some (-1, joinedFlag) else none
    | joinedFlag => if regionalIndicator.contains c then some (3, joinedFlagAndLetter) else none
    | joinedPicture _ => beforeJoined? c
    | tagLetters _ | tagDigits _ => beforeTags? c ahead
    | _ => none

/-- The columns that a character adds in front of the text ahead, and what the text then begins
with. -/
def step (c : Char) (ahead : Ahead) : Int × Ahead :=
  if ahead.style = .picture ∧ styleable.contains c then
    (if ahead matches joinedPicture _ | joinedKeycap _ then 0 else 2, picture)
  else
    let ahead := if ahead.style = .picture then ahead.unstyled else ahead
    if c = '\r' ∧ ahead = lineFeed then (0, plain)
    else if c.toNat ≤ 0xa0 then (charWidth c).map Int.ofNat id
    else if c = '\ufe0f' then (0, ahead.asPicture)
    else if c = '\ufe0e' then (0, ahead.asText)
    else if ahead.style = .text ∧ narrowedByText.contains c then (1, plain)
    else (ahead.unstyled.before? c).getD ((charWidth c).map Int.ofNat id)

end Ahead

/-- The columns and the beginning of a text, one character added in front. -/
def addWidth (c : Char) (behind : Int × Ahead) : Int × Ahead :=
  let (added, ahead) := behind.2.step c
  (behind.1 + added, ahead)

/-- The columns of a text. -/
def textWidth (text : List Char) : Nat := (text.foldr addWidth (0, .plain)).1.toNat

end WhenClause.Unicode

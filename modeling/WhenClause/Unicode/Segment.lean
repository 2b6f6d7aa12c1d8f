/-
**Breaks between graphemes, words and sentences.**

Where a text can be divided depends on classes of characters, of which there are three partitions.
`graphemeBreak?`, `wordBreak?` and `sentenceBreak?` find a class by its normalized name; the class
of all remaining characters has no name here.
-/

import WhenClause.Unicode.Script
import WhenClause.Unicode.Derived

namespace WhenClause.Unicode

/-! ### Graphemes -/

/-- Hangul syllables without a final consonant: every twenty-eighth. -/
def openSyllable : CharSet :=
  .ofRanges ((List.range 399).map fun index => (0xac00 + 28 * index, 0xac00 + 28 * index))

/-- Signs that extend the character before them. -/
def extending : CharSet := graphemeExtend.union emojiModifier

/-- The characters that divide graphemes: controls, and formats but those that join. -/
def graphemeControl : CharSet :=
  (CharSet.unionAll
    [lineSeparator, paragraphSeparator, control, format,
     unassigned.intersect defaultIgnorable]).difference
    (.unionAll [.ofHex ["a d 200c-200d"], prependedConcatenationMark, extending])

/-- Spacing marks that extend a grapheme. -/
def graphemeSpacingMark : CharSet :=
  (spacingMark.union (.ofHex ["e33 eb3"])).difference
    (.union extending
      (.ofHex
        ["102b-102c 1038 1062-1064 1067-106d 1083 1087-108c 108f 109a-109c 1a61 1a63-1a64 aa7b",
         "aa7d 11720-11721"]))

/-- Signs that belong to the character behind them. -/
def prepending : CharSet :=
  prependedConcatenationMark.union
    (.ofHex ["d4e 111c2-111c3 113d1 1193f 11941 11a3a 11a84-11a89 11d46 11f02"])

/-- The class of graphemes of a name, in lower case and without marks between its words. -/
def graphemeBreak? : String → Option CharSet
  | "cr" => some (.ofHex ["d"])
  | "lf" => some (.ofHex ["a"])
  | "control" | "cn" => some graphemeControl
  | "extend" | "ex" => some extending
  | "l" => some (.ofHex ["1100-115f a960-a97c"])
  | "v" => some (.ofHex ["1160-11a7 d7b0-d7c6 16d63 16d67-16d6a"])
  | "t" => some (.ofHex ["11a8-11ff d7cb-d7fb"])
  | "lv" => some openSyllable
  | "lvt" => some ((CharSet.ofHex ["ac00-d7a3"]).difference openSyllable)
  | "prepend" | "pp" => some prepending
  | "regionalindicator" | "ri" => some regionalIndicator
  | "spacingmark" | "sm" => some graphemeSpacingMark
  | "zwj" => some (.ofHex ["200d"])
  | _ => none

/-! ### Words -/

/-- Digits, and the marks that enclose or part them. -/
def numeric : CharSet :=
  .unionAll
    [decimalNumber, prependedConcatenationMark.difference (.ofHex ["70f"]), .ofHex ["66b-66c"]]

/-- Signs that extend the character before them within a word. -/
def wordExtending : CharSet := extending.union spacingMark

def wordKatakana : CharSet :=
  ((script? "katakana").getD .empty).union (.ofHex ["3031-3035 309b-309c 30a0 30fc ff70"])

def hebrewLetter : CharSet := ((script? "hebrew").getD .empty).intersect otherLetter

/-- Letters of scripts that divide words by a dictionary. -/
def dictionaryLetter : CharSet :=
  .ofHex
    ["e01-e3a e40-e46 e4d e81-e82 e84 e86-e8a e8c-ea3 ea5 ea7-eb9 ebb-ebd ec0-ec4 ec6 ecd",
     "edc-edf 1000-1036 1038 103b-103f 1050-108f 109a-109d 1780-17b3 17b6-17c8 17d7 17dc",
     "1950-196d 1970-1974 1980-19ab 19b0-19c9 1a20-1a5e 1a61-1a74 1aa7 a9e0-a9ef a9fa-a9fe",
     "aa60-aa76 aa7a-aabe aac0 aac2 aadb-aadd 11700-1171a 1171d-1172a 11740-11746"]

/-- Letters of alphabets, and signs used like them. -/
def alphabetLetter : CharSet :=
  (alphabetic.union
    (.ofHex
      ["2c2-2c5 2d2-2d7 2de-2df 2e5-2eb 2ed 2ef-2ff 55a-55c 55e 58a 5f3 70f a708-a716 a720-a721",
       "a789-a78a ab5b"])).difference
    (.unionAll
      [ideographic, wordKatakana, dictionaryLetter, (script? "hiragana").getD .empty, wordExtending,
       hebrewLetter])

/-- The class of words of a name, in lower case and without marks between its words. -/
def wordBreak? : String → Option CharSet
  | "cr" => some (.ofHex ["d"])
  | "lf" => some (.ofHex ["a"])
  | "newline" | "nl" => some (.ofHex ["b-c 85 2028-2029"])
  | "extend" => some wordExtending
  | "zwj" => some (.ofHex ["200d"])
  | "format" | "fo" =>
    some <| format.difference
      (.unionAll [.ofHex ["200b-200d"], graphemeExtend, prependedConcatenationMark])
  | "regionalindicator" | "ri" => some regionalIndicator
  | "katakana" | "ka" => some wordKatakana
  | "hebrewletter" | "hl" => some hebrewLetter
  | "aletter" | "le" => some alphabetLetter
  | "singlequote" | "sq" => some (.ofHex ["27"])
  | "doublequote" | "dq" => some (.ofHex ["22"])
  | "midnumlet" | "mb" => some (.ofHex ["2e 2018-2019 2024 fe52 ff07 ff0e"])
  | "midletter" | "ml" => some (.ofHex ["3a b7 387 55f 5f4 2027 fe13 fe55 ff1a"])
  | "midnum" | "mn" =>
    some (.ofHex ["2c 3b 37e 589 60c-60d 66c 7f8 2044 fe10 fe14 fe50 fe54 ff0c ff1b"])
  | "numeric" | "nu" => some (numeric.difference (.ofHex ["66c"]))
  | "extendnumlet" | "ex" => some (connectorPunctuation.union (.ofHex ["202f"]))
  | "wsegspace" => some (spaceSeparator.difference (.ofHex ["a0 2007 202f"]))
  | _ => none

/-! ### Sentences -/

/-- Signs that extend the character before them within a sentence. -/
def sentenceExtending : CharSet := .unionAll [graphemeExtend, spacingMark, .ofHex ["200d"]]

/-- Lowercase characters; Georgian has only one case in ordinary text. -/
def sentenceLower : CharSet :=
  lowercase.difference (graphemeExtend.union (.ofHex ["10d0-10fa 10fd-10ff"]))

def sentenceUpper : CharSet :=
  (uppercase.union titlecaseLetter).difference (.ofHex ["1c90-1cba 1cbd-1cbf"])

/-- Full stops, which may also end an abbreviation. -/
def fullStop : CharSet := .ofHex ["2e 2024 fe52 ff0e"]

/-- The class of sentences of a name, in lower case and without marks between its words. -/
def sentenceBreak? : String → Option CharSet
  | "cr" => some (.ofHex ["d"])
  | "lf" => some (.ofHex ["a"])
  | "sep" | "se" => some (.ofHex ["85 2028-2029"])
  | "extend" | "ex" => some sentenceExtending
  | "format" | "fo" => some (format.difference (sentenceExtending.union numeric))
  | "sp" => some (whiteSpace.difference (.ofHex ["a d 85 2028-2029"]))
  | "lower" | "lo" => some sentenceLower
  | "upper" | "up" => some sentenceUpper
  | "oletter" | "le" =>
    some <| (alphabetic.union (.ofHex ["5f3"])).difference
      (.unionAll [sentenceLower, sentenceUpper, sentenceExtending])
  | "numeric" | "nu" => some numeric
  | "aterm" | "at" => some fullStop
  | "sterm" | "st" => some (sentenceTerminal.difference fullStop)
  | "scontinue" | "sc" =>
    some <| .ofHex
      ["2c-2d 3a-3b 37e 55d 60c-60d 7f8 1802 1808 2013-2014 3001 fe10-fe11 fe13-fe14 fe31-fe32",
       "fe50-fe51 fe54-fe55 fe58 fe63 ff0c-ff0d ff1a-ff1b ff64"]
  | "close" | "cl" =>
    some <| .unionAll
      [openPunctuation, closePunctuation, initialPunctuation, finalPunctuation,
       .ofHex ["22 27 275b-2760 2e00-2e01 2e06-2e08 2e0b 1f676-1f678"]]
  | _ => none

end WhenClause.Unicode
